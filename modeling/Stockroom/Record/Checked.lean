import Stockroom.Text.Basic

/-! # Checked values

Checking a document gives a value or the list of everything that is wrong with it. Faults are
gathered in the order of the parts that are checked, and each is located by its path.
-/
namespace Stockroom

inductive Mismatch
  | recordType
  | listType
  | missing
  | textType
  | intType
  | intForm
  | intSize
  | intFraction
  | intFinite
  | boolType
  | boolForm
  | choice
  | timestampType
  | timestampForm
  | timestampDateForm
  deriving DecidableEq, Repr

def Mismatch.code : Mismatch → Text
  | .recordType => "model_type".toList
  | .listType => "list_type".toList
  | .missing => "missing".toList
  | .textType => "string_type".toList
  | .intType => "int_type".toList
  | .intForm => "int_parsing".toList
  | .intSize => "int_parsing_size".toList
  | .intFraction => "int_from_float".toList
  | .intFinite => "finite_number".toList
  | .boolType => "bool_type".toList
  | .boolForm => "bool_parsing".toList
  | .choice => "enum".toList
  | .timestampType => "datetime_type".toList
  | .timestampForm => "datetime_parsing".toList
  | .timestampDateForm => "datetime_from_date_parsing".toList

inductive Step
  | name (value : Text)
  | index (value : Nat)
  deriving DecidableEq, Repr

def Step.toText : Step → Text
  | .name value => value
  | .index value => Text.ofNat value

structure Flaw where
  path : List Step
  mismatch : Mismatch
  deriving DecidableEq, Repr

def Flaw.pathText (f : Flaw) : Text := ['.'].intercalate (f.path.map Step.toText)

inductive Checked (α : Type)
  | valid (value : α)
  | flawed (flaws : List Flaw)
  deriving Repr

namespace Checked
variable {α β : Type}

def map (f : α → β) : Checked α → Checked β
  | valid value => valid (f value)
  | flawed flaws => flawed flaws

/-- Checks two parts independently; the flaws of the first come first. -/
def apply : Checked (α → β) → Checked α → Checked β
  | valid f, valid value => valid (f value)
  | valid _, flawed flaws => flawed flaws
  | flawed flaws, valid _ => flawed flaws
  | flawed flaws, flawed more => flawed (flaws ++ more)

instance : Applicative Checked where
  pure := valid
  seq f x := f.apply (x ())

def under (step : Stockroom.Step) : Checked α → Checked α
  | valid value => valid value
  | flawed flaws => flawed (flaws.map fun f => { f with path := step :: f.path })

def ofMismatch : Except Mismatch α → Checked α
  | .ok value => valid value
  | .error mismatch => flawed [⟨[], mismatch⟩]

def listFrom {γ : Type} (check : γ → Checked α) (index : Nat) : List γ → Checked (List α)
  | [] => valid []
  | x :: rest => List.cons <$> (check x).under (.index index) <*> listFrom check (index + 1) rest

end Checked

end Stockroom
