import Mathlib.Data.List.Nodup
import Ls8.Proofs.Json.Grammar

/-!
# What records mean

A record has settings, each with a name, a place where its content is kept, and a meaning for the values
that may be written for it. A value gives such values: an object under their names, a list in the order
of the names. What is not given stays as it is.

Two readings of that are proved equal: the settings given are put into the record one after the other,
as they come; and every setting, looked up by its name, has its content in the end.

Main results:

* `Says` — what a value says of a record.
* `sets_iff` — one setting after the other, or each by its name.
* `freeOfForm_record` — neither order nor form makes a difference to what is said.
-/

namespace Ls8.Json

variable {σ : Type}

/-- What a value gives for the fields of a record. An object gives each at most once, in any order, and
nothing else; a list gives the first of them. -/
inductive Gives (names : List String) : Value → List (Bytes × Value) → Prop
  | object {ms : List (Bytes × Value)} :
      (ms.map Prod.fst).Nodup → (∀ key ∈ ms.map Prod.fst, key ∈ names.map utf8) →
        Gives names (.object ms) ms
  | list {vs : List Value} :
      vs.length ≤ names.length → Gives names (.list vs) ((names.map utf8).zip vs)

/-- A setting of a record. -/
structure Setting (σ : Type) where
  name : String
  Content : Type
  get : σ → Content
  put : Content → σ → σ
  /-- What a value means that is written for the setting. -/
  means : Value → Content → Prop
  get_put : ∀ a x, get (put a x) = a

/-- The setting has in `y` what is given for it. If nothing is, it has what it has in `x`. -/
def Setting.Holds (s : Setting σ) (given : List (Bytes × Value)) (x y : σ) : Prop :=
  match given.lookup (utf8 s.name) with
  | none => s.get y = s.get x
  | some v => s.means v (s.get y)

/-- What a value says of a record: it gives some of the settings, and the others have their defaults. -/
def Says (settings : List (Setting σ)) (default : σ) (v : Value) (x : σ) : Prop :=
  ∃ given, Gives (settings.map (·.name)) v given ∧ ∀ s ∈ settings, s.Holds given default x

/-- The settings have names of their own and places of their own, and there are no other places. -/
structure Independent (settings : List (Setting σ)) : Prop where
  names : (settings.map fun s => utf8 s.name).Nodup
  apart : ∀ s ∈ settings, ∀ t ∈ settings, utf8 s.name ≠ utf8 t.name →
    ∀ a x, s.get (t.put a x) = s.get x
  ext : ∀ x y, (∀ s ∈ settings, s.get x = s.get y) → x = y

theorem independent_pair {s t : Setting σ} (hname : utf8 s.name ≠ utf8 t.name)
    (hst : ∀ a x, s.get (t.put a x) = s.get x) (hts : ∀ a x, t.get (s.put a x) = t.get x)
    (hext : ∀ x y, s.get x = s.get y → t.get x = t.get y → x = y) : Independent [s, t] where
  names := by simp [hname]
  apart := by
    intro u hu w hw hne
    rcases List.mem_pair.1 hu with rfl | rfl <;> rcases List.mem_pair.1 hw with rfl | rfl
    · exact absurd rfl hne
    · exact hst
    · exact hts
    · exact absurd rfl hne
  ext := fun x y h => hext x y (h s List.mem_cons_self) (h t (List.mem_cons_of_mem s List.mem_cons_self))

/-! ## One setting after the other -/

/-- How a value changes a record that is written for the setting of a name. -/
def Effect (settings : List (Setting σ)) (key : Bytes) (v : Value) (set : σ → σ) : Prop :=
  ∃ s ∈ settings, utf8 s.name = key ∧ ∃ a, s.means v a ∧ set = s.put a

/-- The settings that are given, put into a record one after the other. -/
inductive Sets (effect : Bytes → Value → (σ → σ) → Prop) : List (Bytes × Value) → σ → σ → Prop
  | nil (x : σ) : Sets effect [] x x
  | cons {key : Bytes} {v : Value} {given : List (Bytes × Value)} {set : σ → σ} {x y : σ} :
      effect key v set → Sets effect given (set x) y → Sets effect ((key, v) :: given) x y

variable {settings : List (Setting σ)} {s t : Setting σ} {given : List (Bytes × Value)} {x y : σ}

theorem lookup_eq_none_of_not_mem {key : Bytes} (h : key ∉ given.map Prod.fst) :
    given.lookup key = none := by
  rw [List.lookup_eq_none_iff]
  intro m hm
  refine bne_iff_ne.2 ?_
  rintro rfl
  exact h (List.mem_map_of_mem hm)

/-- Of its own value a setting has the content. -/
theorem holds_cons_self_iff {v : Value} :
    s.Holds ((utf8 s.name, v) :: given) x y ↔ s.means v (s.get y) := by
  rw [Setting.Holds, List.lookup_cons_self]

theorem holds_cons_of_ne {key : Bytes} {v : Value} (h : utf8 s.name ≠ key) :
    s.Holds ((key, v) :: given) x y ↔ s.Holds given x y := by
  rw [Setting.Holds, List.lookup_cons, beq_eq_false_iff_ne.2 h]
  rfl

theorem holds_of_not_mem (h : utf8 s.name ∉ given.map Prod.fst) :
    s.Holds given x y ↔ s.get y = s.get x := by
  rw [Setting.Holds, lookup_eq_none_of_not_mem h]

/-- The record with one setting put into it is as good to begin with, if that was not given. -/
theorem holds_put_iff (hi : Independent settings) (hs : s ∈ settings) (ht : t ∈ settings) {v : Value}
    (hgiven : utf8 t.name ∉ given.map Prod.fst) (hmeans : t.means v (t.get y)) :
    s.Holds given (t.put (t.get y) x) y ↔ s.Holds ((utf8 t.name, v) :: given) x y := by
  by_cases hname : utf8 s.name = utf8 t.name
  · -- the names are those of one setting
    obtain rfl := List.inj_on_of_nodup_map hi.names hs ht hname
    rw [holds_of_not_mem hgiven, s.get_put, holds_cons_self_iff]
    exact ⟨fun _ => hmeans, fun _ => rfl⟩
  · rw [holds_cons_of_ne hname]
    unfold Setting.Holds
    rw [hi.apart s hs t ht hname]

/-- Settings are put into a record one after the other exactly if in the end each has what is given
for it. -/
theorem sets_iff (hi : Independent settings) (hkeys : (given.map Prod.fst).Nodup)
    (hnames : ∀ key ∈ given.map Prod.fst, ∃ s ∈ settings, utf8 s.name = key) :
    Sets (Effect settings) given x y ↔ ∀ s ∈ settings, s.Holds given x y := by
  induction given generalizing x with
  | nil =>
    constructor
    · intro h
      cases h
      exact fun s _ => rfl
    · intro h
      obtain rfl := hi.ext y x h
      exact .nil y
  | cons m given ih =>
    obtain ⟨key, v⟩ := m
    obtain ⟨hkey, hkeys'⟩ := List.nodup_cons.1 hkeys
    have hrest := fun k hk => hnames k (List.mem_cons_of_mem _ hk)
    constructor
    · intro h
      cases h with
      | cons heffect hsets =>
        obtain ⟨t, ht, rfl, a, hmeans, rfl⟩ := heffect
        have hholds := (ih hkeys' hrest).1 hsets
        -- in the end the setting has what was put into it
        have ha : t.get y = a := by
          have := (holds_of_not_mem hkey).1 (hholds t ht)
          rwa [t.get_put] at this
        subst ha
        exact fun s hs => (holds_put_iff hi hs ht hkey hmeans).1 (hholds s hs)
    · intro h
      obtain ⟨t, ht, rfl⟩ := hnames key List.mem_cons_self
      have hmeans := holds_cons_self_iff.1 (h t ht)
      refine .cons ⟨t, ht, rfl, t.get y, hmeans, rfl⟩ ((ih hkeys' hrest).2 ?_)
      exact fun s hs => (holds_put_iff hi hs ht hkey hmeans).2 (h s hs)

/-! ## What is given -/

theorem map_fst_zip_sublist (keys : List Bytes) (vs : List Value) :
    ((keys.zip vs).map Prod.fst).Sublist keys := by
  induction keys generalizing vs with
  | nil => exact .refl _
  | cons key keys ih =>
    cases vs with
    | nil => exact List.nil_sublist _
    | cons v vs => exact (ih vs).cons_cons key

/-- Nothing is given twice, and nothing but settings. -/
theorem Gives.keys {v : Value} (hi : Independent settings)
    (h : Gives (settings.map (·.name)) v given) :
    (given.map Prod.fst).Nodup ∧ ∀ key ∈ given.map Prod.fst, ∃ s ∈ settings, utf8 s.name = key := by
  have hutf8 : (settings.map (·.name)).map utf8 = settings.map fun s => utf8 s.name := List.map_map
  cases h with
  | object hnodup hnames =>
    rw [hutf8] at hnames
    exact ⟨hnodup, fun key hkey => List.mem_map.1 (hnames key hkey)⟩
  | @list vs hlength =>
    have hsublist := map_fst_zip_sublist ((settings.map (·.name)).map utf8) vs
    rw [hutf8] at hsublist ⊢
    exact ⟨hi.names.sublist hsublist, fun key hkey => List.mem_map.1 (hsublist.subset hkey)⟩

/-- A value says that its settings are put into the defaults one after the other. -/
theorem says_iff {v : Value} (hi : Independent settings) :
    Says settings x v y ↔
      ∃ given, Gives (settings.map (·.name)) v given ∧ Sets (Effect settings) given x y := by
  refine exists_congr fun given => and_congr_right fun hgives => ?_
  obtain ⟨hnodup, hnames⟩ := hgives.keys hi
  exact (sets_iff hi hnodup hnames).symm

theorem effect_iff {v : Value} {set : σ → σ} (hi : Independent settings) (hs : s ∈ settings) :
    Effect settings (utf8 s.name) v set ↔ ∃ a, s.means v a ∧ set = s.put a := by
  constructor
  · rintro ⟨t, ht, hname, heffect⟩
    obtain rfl := List.inj_on_of_nodup_map hi.names ht hs hname
    exact heffect
  · intro heffect
    exact ⟨s, hs, rfl, heffect⟩

/-! ## Order and form -/

/-- What is said of a record depends neither on the order of members nor on whether its settings are
given by an object or by a list. -/
structure FreeOfForm (names : List String) (said : Value → σ → Prop) : Prop where
  order : ∀ {ms ms' : List (Bytes × Value)} {x : σ}, ms.Perm ms' →
    (said (.object ms) x ↔ said (.object ms') x)
  form : ∀ {vs : List Value} {x : σ}, vs.length ≤ names.length →
    (said (.list vs) x ↔ said (.object ((names.map utf8).zip vs)) x)

theorem lookup_eq_some_iff_mem {key : Bytes} {v : Value} (h : (given.map Prod.fst).Nodup) :
    given.lookup key = some v ↔ (key, v) ∈ given := by
  induction given with
  | nil => simp
  | cons m given ih =>
    obtain ⟨k, w⟩ := m
    obtain ⟨hk, hrest⟩ := List.nodup_cons.1 h
    by_cases hkey : key = k
    · subst hkey
      have hnot : (key, v) ∉ given := fun hmem => hk (List.mem_map.2 ⟨_, hmem, rfl⟩)
      simp [hnot, eq_comm]
    · have hne : (key == k) = false := beq_eq_false_iff_ne.2 hkey
      simp [List.lookup_cons, hne, hkey, ih hrest]

/-- Where no name comes twice the order makes no difference to what is looked up. -/
theorem lookup_eq_of_perm {given' : List (Bytes × Value)} (h : (given.map Prod.fst).Nodup)
    (hperm : given.Perm given') (key : Bytes) : given.lookup key = given'.lookup key := by
  refine Option.ext fun v => ?_
  rw [lookup_eq_some_iff_mem h, lookup_eq_some_iff_mem ((hperm.map Prod.fst).nodup_iff.1 h),
    hperm.mem_iff]

theorem says_object_of_perm {ms ms' : List (Bytes × Value)} (hperm : ms.Perm ms')
    (h : Says settings x (.object ms) y) : Says settings x (.object ms') y := by
  obtain ⟨_, ⟨hnodup, hnames⟩, hholds⟩ := h
  refine ⟨ms', .object ((hperm.map Prod.fst).nodup_iff.1 hnodup) ?_, ?_⟩
  · exact fun key hkey => hnames key ((hperm.map Prod.fst).mem_iff.2 hkey)
  · intro s hs
    unfold Setting.Holds
    rw [← lookup_eq_of_perm hnodup hperm]
    exact hholds s hs

theorem freeOfForm_record (hi : Independent settings) (default : σ) :
    FreeOfForm (settings.map (·.name)) (Says settings default) where
  order := fun hperm => ⟨says_object_of_perm hperm, says_object_of_perm hperm.symm⟩
  form := by
    intro vs x hlength
    constructor
    · rintro ⟨_, hgives, hholds⟩
      obtain ⟨hnodup, hnames⟩ := hgives.keys hi
      cases hgives
      refine ⟨_, .object hnodup ?_, hholds⟩
      intro key hkey
      obtain ⟨s, hs, rfl⟩ := hnames key hkey
      exact List.mem_map_of_mem (List.mem_map_of_mem hs)
    · rintro ⟨_, hgives, hholds⟩
      cases hgives
      exact ⟨_, .list hlength, hholds⟩

end Ls8.Json
