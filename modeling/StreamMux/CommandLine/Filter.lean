/-
Which reports are shown. A filter is a list of directives, `level` or
`target=level`; the directive with the longest matching target decides, and
with no directive only errors are shown. A text that is no filter gives the
default, `info`.
-/
import StreamMux.Diagnostic

namespace StreamMux.CommandLine

/-- How much is shown: nothing, or reports of this level and more serious ones. -/
abbrev Verbosity := Option Level

/-- Place in the order from the most serious level on. -/
def rank : Level → Nat
  | .error => 1
  | .warn => 2
  | .info => 3
  | .debug => 4
  | .trace => 5

structure Directive where
  /-- The part of the program it is about; empty for all. -/
  target : String
  verbosity : Verbosity
deriving DecidableEq, Repr

abbrev Filter := List Directive

def verbosity? (text : String) : Option Verbosity :=
  match String.ofList (text.toList.map Char.toLower) with
  | "off" | "0" => some none
  | "error" | "1" => some (some .error)
  | "warn" | "2" => some (some .warn)
  | "info" | "3" => some (some .info)
  | "debug" | "4" => some (some .debug)
  | "trace" | "5" => some (some .trace)
  | _ => none

def directive? (text : String) : Option Directive :=
  match text.splitOn "=" with
  | [word] =>
    match verbosity? word with
    | some v => some ⟨"", v⟩
    | none => if word.isEmpty then none else some ⟨word, some .trace⟩
  | [target, level] => (verbosity? level).map fun v => ⟨target, v⟩
  | _ => none

namespace Filter

def default : Filter := [⟨"", some .info⟩]

def parse? (text : String) : Option Filter :=
  ((text.splitOn ",").filter (!·.isEmpty)).mapM directive?

/-- The filter a setting gives; a missing or faulty one gives the default. -/
def ofSetting (setting : Option String) : Filter := (setting.bind parse?).getD default

/-- How much of `target` is shown. -/
def verbosity (f : Filter) (target : String) : Verbosity :=
  let matching := f.filter fun d => d.target.toList.isPrefixOf target.toList
  match matching.mergeSort (fun a b => a.target.length ≥ b.target.length) with
  | [] => if f.isEmpty then some .error else none
  | d :: _ => d.verbosity

def shows (f : Filter) (target : String) (level : Level) : Bool :=
  match f.verbosity target with
  | none => false
  | some v => rank level ≤ rank v

end Filter
end StreamMux.CommandLine
