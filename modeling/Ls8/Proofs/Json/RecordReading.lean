import Ls8.Json.Record
import Ls8.Proofs.Json.Records
import Ls8.Proofs.Json.Scalars

/-!
# Reading records

A record is read as a list or as an object of the grammar, its settings being put into it as they come.
The reader of elements goes through the fields, that of members through the members; what they leave
behind is the end of the list or the object. That a value ends where the next thing begins is what the
readers of the fields need, and it is seen from the grammar: space, a comma, or the end follows.

Main results:

* `readElements_sound`, `readElements_complete` — the elements of a list.
* `readMembers_sound`, `readMembers_complete` — the members of an object.
* `reads_shape` — a record.
* `readDocument_eq_ok_iff` — a document.
-/

namespace Ls8.Json

variable {σ : Type} {b : UInt8} {bytes rest r : Bytes} {first : Bool}

/-! ## Between elements and members -/

theorem Separator.trans (h : Separator first bytes r) (h' : Space r rest) :
    Separator first bytes rest := by
  cases first with
  | true => exact Space.trans h h'
  | false =>
    obtain ⟨behind, hcomma, hspace⟩ := h
    exact ⟨behind, hcomma, hspace.trans h'⟩

/-- A comma ends a number. -/
theorem Separator.ends (h : Separator false bytes rest) : Ends bytes := by
  obtain ⟨behind, hcomma, -⟩ := h
  exact hcomma.ends (ends_cons (by decide))

theorem Elements.ends {vs : List Value} (h : Elements false vs bytes (ascii ']' :: rest)) :
    Ends bytes := by
  cases h with
  | nil hspace => exact hspace.ends (ends_cons (by decide))
  | cons hsep => exact hsep.ends

theorem Members.ends {ms : List (Bytes × Value)}
    (h : Members false ms bytes (ascii '\x7d' :: rest)) : Ends bytes := by
  cases h with
  | nil hspace => exact hspace.ends (ends_cons (by decide))
  | cons hsep => exact hsep.ends

/-- Before the next element there is a separator; else there is the end of the list. -/
theorem of_hasNextElement {more : Bool} (h : hasNextElement first bytes = .ok (more, rest)) :
    if more then Separator first bytes rest else Space bytes rest ∧ ∃ r, rest = ascii ']' :: r := by
  have hspace := space_skipSpace bytes
  unfold hasNextElement at h
  split at h
  · cases h
  next c s hs =>
    rw [hs] at hspace
    split at h
    · next hc =>
      cases h
      exact ⟨hspace, s, by rw [hc]⟩
    split at h
    · next hfirst =>
      -- no comma before the first
      cases h
      rw [hfirst]
      exact hspace
    split at h
    · next hfirst hc =>
      have hbehind := space_skipSpace s
      split at h
      · cases h
      · next hs' =>
        -- the end does not follow a comma
        split at h
        · cases h
        · cases h
          rw [hc] at hspace
          rw [hs'] at hbehind
          rw [eq_false_of_ne_true hfirst]
          exact ⟨s, hspace, hbehind⟩
    · cases h

theorem hasNextElement_of_separator (h : Separator first bytes (b :: rest)) (hb : b ∉ spaces)
    (hend : b ≠ ascii ']') : hasNextElement first bytes = .ok (true, b :: rest) := by
  unfold hasNextElement
  cases first with
  | true =>
    have hskip : skipSpace bytes = b :: rest := (skipSpace_eq_cons_iff hb).2 h
    simp [hskip, hend]
  | false =>
    obtain ⟨behind, hcomma, hspace⟩ := h
    have hskip := (skipSpace_eq_cons_iff (by decide)).2 hcomma
    have hskip' := (skipSpace_eq_cons_iff hb).2 hspace
    have hne : ascii ',' ≠ ascii ']' := by decide
    simp [hskip, hskip', hend, hne]

theorem hasNextElement_of_end (h : Space bytes (ascii ']' :: rest)) :
    hasNextElement first bytes = .ok (false, ascii ']' :: rest) := by
  have hskip := (skipSpace_eq_cons_iff (by decide)).2 h
  simp [hasNextElement, hskip]

theorem readListEnd_eq_ok_iff : readListEnd bytes = .ok ((), rest) ↔ Space bytes (ascii ']' :: rest) := by
  rw [← skipSpace_eq_cons_iff (by decide)]
  unfold readListEnd
  cases skipSpace bytes with
  | nil => simp [failAtNext]
  | cons c s =>
    by_cases hc : c = ascii ']'
    · simp [hc]
    · simp only [hc, if_false, failAtNext]
      split <;> simp [hc]

/-! ## Lists -/

variable {effect : Bytes → Value → (σ → σ) → Prop} {fields : List (Field σ)} {x y : σ}

/-- The elements that were read are in the grammar, each for the next of the fields. -/
theorem readElements_sound
    (hreads : ∀ f ∈ fields, Reads f.read (effect (utf8 f.name)))
    (h : readElements first x fields bytes = .ok (y, r)) (hend : readListEnd r = .ok ((), rest)) :
    ∃ vs, Elements first vs bytes (ascii ']' :: rest) ∧ vs.length ≤ fields.length ∧
      Sets effect ((fields.map fun f => utf8 f.name).zip vs) x y := by
  rw [readListEnd_eq_ok_iff] at hend
  induction fields generalizing first x bytes with
  | nil =>
    cases h
    exact ⟨[], .nil hend, Nat.le_refl 0, .nil _⟩
  | cons f fields ih =>
    obtain ⟨⟨more, r₁⟩, hnext, hmore⟩ := bind_eq_ok_iff.1 h
    have hsep := of_hasNextElement hnext
    cases more with
    | false =>
      -- the fields that are left keep what they have
      cases hmore
      exact ⟨[], .nil (hsep.1.trans hend), Nat.zero_le _, .nil _⟩
    | true =>
      obtain ⟨⟨set, r₂⟩, hread, hrest⟩ := bind_eq_ok_iff.1 hmore
      obtain ⟨v, start, hspace, hwrites, heffect⟩ := (hreads f List.mem_cons_self).sound hread
      obtain ⟨vs, helements, hlength, hsets⟩ :=
        ih (fun g hg => hreads g (List.mem_cons_of_mem f hg)) hrest
      exact ⟨v :: vs, .cons (Separator.trans hsep hspace) hwrites helements,
        Nat.succ_le_succ hlength, .cons heffect hsets⟩

/-- Elements of the grammar are read, if there are no more of them than fields. -/
theorem readElements_complete {vs : List Value}
    (hreads : ∀ f ∈ fields, Reads f.read (effect (utf8 f.name)))
    (h : Elements first vs bytes (ascii ']' :: rest)) (hlength : vs.length ≤ fields.length)
    (hsets : Sets effect ((fields.map fun f => utf8 f.name).zip vs) x y) :
    ∃ r, readElements first x fields bytes = .ok (y, r) ∧ readListEnd r = .ok ((), rest) := by
  induction fields generalizing first x bytes vs with
  | nil =>
    obtain rfl := List.length_eq_zero_iff.1 (Nat.le_zero.1 hlength)
    cases hsets
    cases h with
    | nil hspace => exact ⟨bytes, rfl, readListEnd_eq_ok_iff.2 hspace⟩
  | cons f fields ih =>
    cases h with
    | nil hspace =>
      cases hsets
      refine ⟨_, ?_, readListEnd_eq_ok_iff.2 (.nil _)⟩
      exact bind_eq_ok_iff.2 ⟨_, hasNextElement_of_end hspace, rfl⟩
    | cons hsep hwrites helements =>
      cases hsets with
      | cons heffect hsets =>
        -- a value is not taken for the end, and it ends where the next element or the end begins
        obtain ⟨b, s, rfl, hb, hne⟩ := hwrites.exists_cons
        have hread := (hreads f List.mem_cons_self).complete (.nil _) hwrites heffect helements.ends
        obtain ⟨r, hrest, hend⟩ := ih (fun g hg => hreads g (List.mem_cons_of_mem f hg)) helements
          (Nat.le_of_succ_le_succ hlength) hsets
        refine ⟨r, ?_, hend⟩
        refine bind_eq_ok_iff.2 ⟨_, hasNextElement_of_separator hsep hb hne, ?_⟩
        exact bind_eq_ok_iff.2 ⟨_, hread, hrest⟩

/-! ## Objects -/

/-- Before the next member there is a separator, and its name begins; else there is the end of the
object. -/
theorem of_hasNextMember {more : Bool} (h : hasNextMember first bytes = .ok (more, rest)) :
    if more then ∃ r, rest = ascii '"' :: r ∧ Separator first bytes rest
    else Space bytes rest ∧ ∃ r, rest = ascii '\x7d' :: r := by
  have hspace := space_skipSpace bytes
  unfold hasNextMember at h
  split at h
  · cases h
  next c s hs =>
    rw [hs] at hspace
    split at h
    · next hc =>
      cases h
      exact ⟨hspace, s, by rw [hc]⟩
    split at h
    · next hfirst =>
      -- no comma before the first
      split at h
      · next hquote =>
        cases h
        rw [hfirst]
        exact ⟨s, by rw [hquote], hspace⟩
      · cases h
    split at h
    · next hfirst hc =>
      have hbehind := space_skipSpace s
      split at h
      · cases h
      next k s' hs' =>
        -- only a name follows a comma
        split at h
        · next hquote =>
          cases h
          rw [hc] at hspace
          rw [hs'] at hbehind
          rw [eq_false_of_ne_true hfirst]
          exact ⟨s', by rw [hquote], s, hspace, hbehind⟩
        · split at h <;> cases h
    · cases h

theorem hasNextMember_of_separator (h : Separator first bytes (ascii '"' :: rest)) :
    hasNextMember first bytes = .ok (true, ascii '"' :: rest) := by
  unfold hasNextMember
  cases first with
  | true =>
    have hskip := (skipSpace_eq_cons_iff (by decide)).2 h
    have hne : ascii '"' ≠ ascii '\x7d' := by decide
    simp [hskip, hne]
  | false =>
    obtain ⟨behind, hcomma, hspace⟩ := h
    have hskip := (skipSpace_eq_cons_iff (by decide)).2 hcomma
    have hskip' := (skipSpace_eq_cons_iff (by decide)).2 hspace
    have hne : ascii ',' ≠ ascii '\x7d' := by decide
    simp [hskip, hskip', hne]

theorem hasNextMember_of_end (h : Space bytes (ascii '\x7d' :: rest)) :
    hasNextMember first bytes = .ok (false, ascii '\x7d' :: rest) := by
  have hskip := (skipSpace_eq_cons_iff (by decide)).2 h
  simp [hasNextMember, hskip]

theorem readColon_eq_ok_iff : readColon bytes = .ok ((), rest) ↔ Space bytes (ascii ':' :: rest) := by
  rw [← skipSpace_eq_cons_iff (by decide)]
  unfold readColon
  cases skipSpace bytes with
  | nil => simp [failAtNext]
  | cons c s =>
    by_cases hc : c = ascii ':'
    · simp [hc]
    · simp [hc, failAtNext]

theorem readObjectEnd_eq_ok_iff :
    readObjectEnd bytes = .ok ((), rest) ↔ Space bytes (ascii '\x7d' :: rest) := by
  rw [← skipSpace_eq_cons_iff (by decide)]
  unfold readObjectEnd
  cases skipSpace bytes with
  | nil => simp [failAtNext]
  | cons c s =>
    by_cases hc : c = ascii '\x7d'
    · simp [hc]
    · simp only [hc, if_false, failAtNext]
      split <;> simp [hc]

variable {shape : Shape σ} {unseen : List (Field σ)} {key : Bytes}

theorem isNamed_iff {f : Field σ} : f.isNamed key = true ↔ utf8 f.name = key := beq_iff_eq

/-- The names not seen are those not seen before but for the last. -/
theorem mem_names_without_iff {k : Bytes} :
    k ∈ (without unseen key).map (fun f => utf8 f.name) ↔
      k ∈ unseen.map (fun f => utf8 f.name) ∧ k ≠ key := by
  simp only [without, List.mem_map, List.mem_filter, Bool.not_eq_true', ← Bool.not_eq_true,
    isNamed_iff]
  constructor
  · rintro ⟨f, ⟨hf, hne⟩, rfl⟩
    exact ⟨⟨f, hf, rfl⟩, hne⟩
  · rintro ⟨⟨f, hf, rfl⟩, hne⟩
    exact ⟨f, ⟨hf, hne⟩, rfl⟩

/-- A member that is read: its name, of a field not seen before, a colon and a value for the field. -/
structure ReadsMember (unseen : List (Field σ)) (key name : Bytes) (set : σ → σ) (behind : Bytes)
    (f : Field σ) (afterName afterColon : Bytes) : Prop where
  name  : readString name = .ok (key, afterName)
  field : unseen.find? (·.isNamed key) = some f
  colon : readColon afterName = .ok ((), afterColon)
  value : f.read afterColon = .ok (set, behind)

theorem readMembers_of_end (h : hasNextMember first bytes = .ok (false, rest)) :
    readMembers shape unseen first x bytes = .ok (x, rest) := by
  rw [readMembers]
  exact bind_eq_ok_iff.2 ⟨_, h, rfl⟩

/-- With a member in front, the members are those behind it with what it sets put into the record. -/
theorem readMembers_eq_ok_iff {name : Bytes}
    (hnext : hasNextMember first bytes = .ok (true, ascii '"' :: name)) :
    readMembers shape unseen first x bytes = .ok (y, rest) ↔
      ∃ key set behind f afterName afterColon,
        ReadsMember unseen key name set behind f afterName afterColon ∧
        readMembers shape (without unseen key) false (set x) behind = .ok (y, rest) := by
  rw [readMembers]
  constructor
  · intro h
    obtain ⟨⟨more, r₁⟩, hmore, h₁⟩ := bind_eq_ok_iff.1 h
    obtain ⟨rfl, rfl⟩ := Prod.mk.inj (Except.ok.inj (hnext.symm.trans hmore))
    dsimp only at h₁
    rw [if_pos rfl] at h₁
    obtain ⟨⟨key, afterName⟩, hname, h₂⟩ := bind_eq_ok_iff.1 h₁
    dsimp only at h₂
    split at h₂
    · next f hfield =>
      obtain ⟨⟨⟨⟩, afterColon⟩, hcolon, h₃⟩ := bind_eq_ok_iff.1 h₂
      obtain ⟨⟨set, behind⟩, hvalue, h₄⟩ := bind_eq_ok_iff.1 h₃
      exact ⟨key, set, behind, f, afterName, afterColon, ⟨hname, hfield, hcolon, hvalue⟩, h₄⟩
    · -- a name of another field, or of none, is refused
      split at h₂ <;> cases h₂
  · rintro ⟨key, set, behind, f, afterName, afterColon, hm, h⟩
    refine bind_eq_ok_iff.2 ⟨_, hnext, ?_⟩
    dsimp only
    rw [if_pos rfl]
    refine bind_eq_ok_iff.2 ⟨_, hm.name, ?_⟩
    dsimp only
    split
    · next g hfield =>
      obtain rfl := Option.some.inj (hm.field.symm.trans hfield)
      refine bind_eq_ok_iff.2 ⟨_, hm.colon, ?_⟩
      exact bind_eq_ok_iff.2 ⟨_, hm.value, h⟩
    · next hnone => exact absurd (hm.field.symm.trans hnone) (by simp)

/-- The members that were read are in the grammar; their names are among those not seen before, and
no two are the same. -/
theorem readMembers_sound (hreads : ∀ f ∈ unseen, Reads f.read (effect (utf8 f.name)))
    (h : readMembers shape unseen first x bytes = .ok (y, r))
    (hend : readObjectEnd r = .ok ((), rest)) :
    ∃ ms, Members first ms bytes (ascii '\x7d' :: rest) ∧ (ms.map Prod.fst).Nodup ∧
      (∀ k ∈ ms.map Prod.fst, k ∈ unseen.map fun f => utf8 f.name) ∧ Sets effect ms x y := by
  -- every member takes a name away from those not seen
  induction hn : unseen.length using Nat.strongRecOn generalizing unseen first x bytes with
  | ind n ih =>
    cases hnext : hasNextMember first bytes with
    | error e =>
      rw [readMembers] at h
      obtain ⟨_, hok, -⟩ := bind_eq_ok_iff.1 h
      exact absurd (hnext.symm.trans hok) (by simp)
    | ok next =>
      obtain ⟨more, r₁⟩ := next
      have hsep := of_hasNextMember hnext
      cases more with
      | false =>
        rw [readMembers_of_end hnext] at h
        cases h
        exact ⟨[], .nil (hsep.1.trans (readObjectEnd_eq_ok_iff.1 hend)), .nil, by simp, .nil _⟩
      | true =>
        obtain ⟨name, rfl, hsep⟩ := hsep
        obtain ⟨key, set, behind, f, afterName, afterColon, hm, hrest⟩ :=
          (readMembers_eq_ok_iff hnext).1 h
        have hf := List.mem_of_find?_eq_some hm.field
        have hkey : utf8 f.name = key := isNamed_iff.1 (by simpa using List.find?_some hm.field)
        obtain ⟨v, start, hspace, hwrites, heffect⟩ := (hreads f hf).sound hm.value
        -- the members behind have other names
        have hshorter : (without unseen key).length < n := hn ▸ length_without_lt hm.field
        obtain ⟨ms, hmembers, hnodup, hnames, hsets⟩ :=
          ih _ hshorter (fun g hg => hreads g (List.mem_of_mem_filter hg)) hrest rfl
        refine ⟨(key, v) :: ms, ?_, ?_, ?_, ?_⟩
        · exact .cons hsep (readString_eq_ok_iff.1 hm.name) (readColon_eq_ok_iff.1 hm.colon) hspace
            hwrites hmembers
        · exact List.nodup_cons.2 ⟨fun hmem => (mem_names_without_iff.1 (hnames _ hmem)).2 rfl, hnodup⟩
        · intro k hk
          rcases List.mem_cons.1 hk with rfl | hk
          · exact List.mem_map.2 ⟨f, hf, hkey⟩
          · exact (mem_names_without_iff.1 (hnames k hk)).1
        · exact .cons (hkey ▸ heffect) hsets

/-- Members of the grammar are read, if each has the name of a field and no two have the same. -/
theorem readMembers_complete (shape : Shape σ) {ms : List (Bytes × Value)}
    (hreads : ∀ f ∈ unseen, Reads f.read (effect (utf8 f.name)))
    (h : Members first ms bytes (ascii '\x7d' :: rest)) (hnodup : (ms.map Prod.fst).Nodup)
    (hnames : ∀ k ∈ ms.map Prod.fst, k ∈ unseen.map fun f => utf8 f.name)
    (hsets : Sets effect ms x y) :
    ∃ r, readMembers shape unseen first x bytes = .ok (y, r) ∧ readObjectEnd r = .ok ((), rest) := by
  induction ms generalizing unseen first x bytes with
  | nil =>
    cases hsets
    cases h with
    | nil hspace =>
      exact ⟨_, readMembers_of_end (hasNextMember_of_end hspace), readObjectEnd_eq_ok_iff.2 (.nil _)⟩
  | cons m ms ih =>
    cases h with
    | @cons _ key v _ _ name afterName afterColon start behind _ hsep hname hcolon hspace hwrites
        hmembers =>
      cases hsets with
      | @cons _ _ _ set _ _ heffect hsets =>
        obtain ⟨hkey, hnodup'⟩ := List.nodup_cons.1 hnodup
        -- the field of the name
        obtain ⟨f, hfield⟩ : ∃ f, unseen.find? (·.isNamed key) = some f := by
          obtain ⟨f, hf, hname⟩ := List.mem_map.1 (hnames key List.mem_cons_self)
          exact Option.isSome_iff_exists.1 (List.find?_isSome.2 ⟨f, hf, isNamed_iff.2 hname⟩)
        have hf := List.mem_of_find?_eq_some hfield
        have hkeyname : utf8 f.name = key := isNamed_iff.1 (by simpa using List.find?_some hfield)
        have hvalue := (hreads f hf).complete hspace hwrites (hkeyname ▸ heffect) hmembers.ends
        -- the members behind have other names
        have hnames' : ∀ k ∈ ms.map Prod.fst, k ∈ (without unseen key).map fun f => utf8 f.name :=
          fun k hk => mem_names_without_iff.2
            ⟨hnames k (List.mem_cons_of_mem _ hk), fun heq => hkey (heq ▸ hk)⟩
        obtain ⟨r, hrest, hend⟩ := ih (fun g hg => hreads g (List.mem_of_mem_filter hg)) hmembers
          hnodup' hnames' hsets
        refine ⟨r, ?_, hend⟩
        refine (readMembers_eq_ok_iff (hasNextMember_of_separator hsep)).2 ?_
        exact ⟨key, set, behind, f, afterName, afterColon,
          ⟨readString_eq_ok_iff.2 hname, hfield, readColon_eq_ok_iff.2 hcolon, hvalue⟩, hrest⟩

/-! ## Records and documents -/

/-- A record is read as what the value gives, put into the empty record one after the other. -/
theorem reads_shape (hreads : ∀ f ∈ shape.fields, Reads f.read (effect (utf8 f.name))) :
    Reads shape.read fun v x => ∃ given, Gives (shape.fields.map (·.name)) v given ∧
      Sets effect given shape.empty x where
  sound := by
    intro bytes rest x h
    have hspace := space_skipSpace bytes
    unfold Shape.read at h
    split at h
    · cases h
    next c s hs =>
      rw [hs] at hspace
      split at h
      · next hc =>
        obtain ⟨⟨y, r⟩, helements, h₁⟩ := bind_eq_ok_iff.1 h
        obtain ⟨⟨⟨⟩, r'⟩, hend, h₂⟩ := bind_eq_ok_iff.1 h₁
        cases h₂
        obtain ⟨vs, hvs, hlength, hsets⟩ := readElements_sound hreads helements hend
        rw [hc] at hspace
        refine ⟨.list vs, _, hspace, .list hvs, _, .list (by rwa [List.length_map]), ?_⟩
        rwa [List.map_map]
      split at h
      · next hc =>
        obtain ⟨⟨y, r⟩, hmembers, h₁⟩ := bind_eq_ok_iff.1 h
        obtain ⟨⟨⟨⟩, r'⟩, hend, h₂⟩ := bind_eq_ok_iff.1 h₁
        cases h₂
        obtain ⟨ms, hms, hnodup, hnames, hsets⟩ := readMembers_sound hreads hmembers hend
        rw [hc] at hspace
        refine ⟨.object ms, _, hspace, .object hms, _, .object hnodup ?_, hsets⟩
        rwa [List.map_map]
      · exact absurd h refuse_ne_ok
  complete := by
    rintro bytes start rest v x hspace hwrites ⟨given, hgives, hsets⟩ -
    unfold Shape.read
    cases hgives with
    | list hlength =>
      cases hwrites with
      | list helements =>
        rw [List.length_map] at hlength
        rw [List.map_map] at hsets
        obtain ⟨r, hread, hend⟩ := readElements_complete hreads helements hlength hsets
        rw [(skipSpace_eq_cons_iff (by decide)).2 hspace]
        dsimp only
        rw [if_pos rfl]
        exact bind_eq_ok_iff.2 ⟨_, hread, bind_eq_ok_iff.2 ⟨_, hend, rfl⟩⟩
    | object hnodup hnames =>
      cases hwrites with
      | object hmembers =>
        rw [List.map_map] at hnames
        obtain ⟨r, hread, hend⟩ :=
          readMembers_complete shape hreads hmembers hnodup hnames hsets
        rw [(skipSpace_eq_cons_iff (by decide)).2 hspace]
        dsimp only
        rw [if_neg (by decide), if_pos rfl]
        exact bind_eq_ok_iff.2 ⟨_, hread, bind_eq_ok_iff.2 ⟨_, hend, rfl⟩⟩

variable {settings : List (Setting σ)}

/-- A value that is read for a setting is put there. -/
theorem Setting.reads {s : Setting σ} (hi : Independent settings) (hs : s ∈ settings)
    {read : Reader s.Content} (h : Reads read s.means) :
    Reads (fun bytes => (read bytes).map fun (a, rest) => (s.put a, rest))
      (Effect settings (utf8 s.name)) :=
  (h.map s.put).of_iff fun _ _ => (effect_iff hi hs).symm

/-- A record is read as what the value says of its settings, if its fields read the values of these. -/
theorem reads_record (hi : Independent settings)
    (hnames : shape.fields.map (·.name) = settings.map (·.name))
    (hreads : ∀ f ∈ shape.fields, Reads f.read (Effect settings (utf8 f.name))) :
    Reads shape.read (Says settings shape.empty) :=
  (reads_shape hreads).of_iff fun _ _ => by rw [says_iff hi, hnames]

/-- A document is read as what its value means. -/
theorem readDocument_eq_ok_iff {α : Type} {read : Reader α} {means : Value → α → Prop} {a : α}
    (h : Reads read means) :
    readDocument read bytes = .ok a ↔ ∃ v, Document bytes v ∧ means v a := by
  constructor
  · intro hread
    obtain ⟨⟨a', r⟩, hok, hend⟩ := bind_eq_ok_iff.1 hread
    dsimp only at hend
    split at hend
    · next hempty =>
      cases hend
      obtain ⟨v, start, hspace, hwrites, hmeans⟩ := h.sound hok
      have hbehind := space_skipSpace r
      rw [List.isEmpty_iff.1 hempty] at hbehind
      exact ⟨v, ⟨start, r, hspace, hwrites, hbehind⟩, hmeans⟩
    · cases hend
  · rintro ⟨v, ⟨start, behind, hspace, hwrites, hbehind⟩, hmeans⟩
    have hskip : skipSpace behind = [] := hbehind.skipSpace_eq
    have hok := h.complete hspace hwrites hmeans (hbehind.ends .nil)
    refine bind_eq_ok_iff.2 ⟨_, hok, ?_⟩
    dsimp only
    rw [hskip]
    rfl

end Ls8.Json
