namespace WatchfaceCheck

-- How the checker itself ranks a message.
inductive Category where
  | warning
  | error
  | suggestion
  | message
deriving DecidableEq, Repr

namespace Category

def code : Category → Nat
  | .warning => 0
  | .error => 1
  | .suggestion => 2
  | .message => 3

def ofCode? : Nat → Option Category
  | 0 => some .warning
  | 1 => some .error
  | 2 => some .suggestion
  | 3 => some .message
  | _ => none

def unknownText (code : Nat) : String := s!"unknown diagnostic category {code}"

theorem ofCode?_code (category : Category) : ofCode? category.code = some category := by
  cases category <;> rfl

end Category

inductive Phase where
  | options
  | global
  | syntactic
  | semantic
deriving DecidableEq, Repr

namespace Phase

def all : List Phase := [.options, .global, .syntactic, .semantic]

def name : Phase → String
  | .options => "options"
  | .global => "global"
  | .syntactic => "syntactic"
  | .semantic => "semantic"

end Phase

structure Message where
  code : UInt32
  text : String
  category : Category
  depth : UInt64 := 0
deriving DecidableEq, Repr

-- The span counts UTF-16 units of the file's text; without a file it has no meaning.
structure Diagnostic where
  file : Option String := none
  start : UInt32 := 0
  length : UInt32 := 0
  category : Category
  code : UInt32
  chain : List Message
deriving DecidableEq, Repr

namespace Diagnostic

def chainLimit : Nat := 64

def ofText (category : Category) (code : UInt32) (text : String) : Diagnostic :=
  { category, code, chain := [{ code, text, category }] }

def inFile (file : String) (start length : UInt32) (category : Category) (code : UInt32)
    (text : String) : Diagnostic :=
  { ofText category code text with file := some file, start, length }

-- A further message, one level below the last one.
def withDetail (d : Diagnostic) (code : UInt32) (text : String) : Diagnostic :=
  let depth := match d.chain.getLast? with
    | some last => last.depth + 1
    | none => 0
  { d with chain := d.chain ++ [{ code, text, category := d.category, depth }] }

def messages (d : Diagnostic) : List Message := d.chain.take chainLimit

def headText (d : Diagnostic) : String :=
  match d.chain with
  | [] => ""
  | head :: _ => head.text

end Diagnostic

end WatchfaceCheck
