import Ls8.Config.Document
import Ls8.Proofs.Json.RecordReading

/-!
# What configuration documents say

A configuration is a record of two sections, which are records themselves. Its document is a JSON
document whose value says which settings differ from their defaults; every form of it is read, and
nothing else is.

Main results:

* `Config.Says` — what a value says of a configuration.
* `reads_config` — the reader of configurations.
* `ofJson_reads_exactly` — exactly the documents that say something are read, as what they say.
-/

namespace Ls8

open Json

/-! ## Settings -/

/-- The settings of the section `general`. -/
def Config.General.settings : List (Setting General) :=
  [{ name := "trace_instructions"
     Content := Bool
     get := General.traceInstructions
     put := fun b c => { c with traceInstructions := b }
     means := IsBoolean
     get_put := fun _ _ => rfl }]

/-- The settings of the section `cpu`. -/
def Config.Cpu.settings : List (Setting Cpu) :=
  [{ name := "stack_pointer_init"
     Content := UInt8
     get := Cpu.stackPointerInit
     put := fun v c => { c with stackPointerInit := v }
     means := IsByte
     get_put := fun _ _ => rfl },
   { name := "halt_resets_pc"
     Content := Bool
     get := Cpu.haltResetsPc
     put := fun b c => { c with haltResetsPc := b }
     means := IsBoolean
     get_put := fun _ _ => rfl }]

/-- What a value says of the section `general`. -/
def Config.General.Says (v : Value) (g : General) : Prop := Json.Says General.settings {} v g

/-- What a value says of the section `cpu`. -/
def Config.Cpu.Says (v : Value) (p : Cpu) : Prop := Json.Says Cpu.settings {} v p

/-- The sections of a configuration. -/
def Config.settings : List (Setting Config) :=
  [{ name := "general"
     Content := General
     get := Config.general
     put := fun g c => { c with general := g }
     means := General.Says
     get_put := fun _ _ => rfl },
   { name := "cpu"
     Content := Cpu
     get := Config.cpu
     put := fun p c => { c with cpu := p }
     means := Cpu.Says
     get_put := fun _ _ => rfl }]

/-- What a value says of a configuration. -/
def Config.Says (v : Value) (c : Config) : Prop := Json.Says Config.settings {} v c

namespace Config

/-! ## The readers of the sections -/

theorem General.settings_independent : Independent General.settings where
  names := by decide
  apart := by
    intro s hs t ht hne
    obtain rfl := List.mem_singleton.1 hs
    obtain rfl := List.mem_singleton.1 ht
    exact absurd rfl hne
  ext := by
    intro x y h
    exact congrArg General.mk (h _ List.mem_cons_self)

theorem Cpu.settings_independent : Independent Cpu.settings :=
  independent_pair (by decide) (fun _ _ => rfl) (fun _ _ => rfl) fun _ _ hstack hhalt =>
    congr (congrArg Cpu.mk hstack) hhalt

theorem settings_independent : Independent settings :=
  independent_pair (by decide) (fun _ _ => rfl) (fun _ _ => rfl) fun _ _ hgeneral hcpu =>
    congr (congrArg Config.mk hgeneral) hcpu

theorem reads_general : Reads General.shape.read General.Says := by
  refine reads_record General.settings_independent rfl ?_
  intro f hf
  obtain rfl := List.mem_singleton.1 hf
  exact Setting.reads General.settings_independent List.mem_cons_self reads_boolean

theorem reads_cpu : Reads Cpu.shape.read Cpu.Says := by
  refine reads_record Cpu.settings_independent rfl ?_
  intro f hf
  rcases List.mem_pair.1 hf with rfl | rfl
  · exact Setting.reads Cpu.settings_independent List.mem_cons_self reads_byte
  · exact Setting.reads Cpu.settings_independent (List.mem_cons_of_mem _ List.mem_cons_self)
      reads_boolean

theorem reads_config : Reads shape.read Says := by
  refine reads_record settings_independent rfl ?_
  intro f hf
  rcases List.mem_pair.1 hf with rfl | rfl
  · exact Setting.reads settings_independent List.mem_cons_self reads_general
  · exact Setting.reads settings_independent (List.mem_cons_of_mem _ List.mem_cons_self) reads_cpu

theorem toOption_eq_some_iff {ε α : Type} {x : Except ε α} {a : α} :
    x.toOption = some a ↔ x = .ok a := by
  cases x <;> simp [Except.toOption]

/-- A text is read as a configuration exactly if it is a document whose value says that, in whatever form
and order its settings are given. -/
theorem ofJson_reads_exactly (s : String) (c : Config) :
    (ofJson s = .ok c ↔ ∃ v, Document (utf8 s) v ∧ Says v c) ∧
      FreeOfForm ["general", "cpu"] Says ∧
      FreeOfForm ["trace_instructions"] General.Says ∧
      FreeOfForm ["stack_pointer_init", "halt_resets_pc"] Cpu.Says := by
  refine ⟨?_, ?_, ?_, ?_⟩
  · rw [← readDocument_eq_ok_iff reads_config, ofJson]
    cases readDocument shape.read (utf8 s) <;> simp [Except.mapError]
  · exact freeOfForm_record settings_independent {}
  · exact freeOfForm_record General.settings_independent {}
  · exact freeOfForm_record Cpu.settings_independent {}

/-- The sections in either form, with an escape in a name; and a number with a zero in front, which no
configuration has. -/
theorem ofJson_reads_exactly_mixedForms :
    (∃ v, Document
        (utf8 " \x7b\"cpu\": [0], \"gener\\u0061l\" : \x7b\"trace_instructions\": true\x7d\x7d") v ∧
      Says v { general := { traceInstructions := true }, cpu := { stackPointerInit := 0 } }) ∧
    ¬∃ v, Document (utf8 "[[], [00]]") v ∧ Says v { cpu := { stackPointerInit := 0 } } := by
  rw [← (ofJson_reads_exactly _ _).1, ← (ofJson_reads_exactly _ _).1]
  refine ⟨toOption_eq_some_iff.1 (by decide +kernel), fun h => ?_⟩
  have hnone : (ofJson "[[], [00]]").toOption = none := by decide +kernel
  rw [h] at hnone
  cases hnone

end Config

end Ls8
