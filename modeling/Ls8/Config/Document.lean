import Ls8.Config
import Ls8.Json.Record

/-!
# Configuration documents

A configuration is written in JSON as a record with the sections `general` and `cpu`. Every section
and every setting may be left out; an unknown one is an error, and so is one that comes twice.
-/

namespace Ls8.Config

open Json (Field Shape)

/-- The form of the section `general`. -/
def General.shape : Shape General where
  kind := "struct GeneralConfig"
  fields :=
    [{ name := "trace_instructions"
       read := fun bytes => (Json.readBoolean bytes).map fun (b, rest) =>
         (fun c => { c with traceInstructions := b }, rest) }]
  empty := {}

/-- The form of the section `cpu`. -/
def Cpu.shape : Shape Cpu where
  kind := "struct CpuConfig"
  fields :=
    [{ name := "stack_pointer_init"
       read := fun bytes => (Json.readByte bytes).map fun (v, rest) =>
         (fun c => { c with stackPointerInit := v }, rest) },
     { name := "halt_resets_pc"
       read := fun bytes => (Json.readBoolean bytes).map fun (b, rest) =>
         (fun c => { c with haltResetsPc := b }, rest) }]
  empty := {}

/-- The form of a configuration. -/
def shape : Shape Config where
  kind := "struct Config"
  fields :=
    [{ name := "general"
       read := fun bytes => (General.shape.read bytes).map fun (g, rest) =>
         (fun c => { c with general := g }, rest) },
     { name := "cpu"
       read := fun bytes => (Cpu.shape.read bytes).map fun (p, rest) =>
         (fun c => { c with cpu := p }, rest) }]
  empty := {}

/-- Reads a configuration document. -/
def ofJson (text : String) : Except Json.Error Config :=
  let document := Json.utf8 text
  (Json.readDocument shape.read document).mapError (·.locate document)

end Ls8.Config
