import RowScript.Decimal.Read

/-!
# Tokens of scripts

The words of a script source, each with the place where it starts.
-/

namespace RowScript.Script

/-- A place in a source, counted from one; the zero position is no place. -/
structure Position where
  line : Nat
  column : Nat
  deriving Repr, DecidableEq, Inhabited

namespace Position

/-- No place. -/
def unknown : Position := ⟨0, 0⟩

def isKnown (p : Position) : Bool := p.line != 0

def text (p : Position) : String := s!"line {p.line}, position {p.column}"

/-- The first of two positions that is a place. -/
def orElse (p q : Position) : Position := if p.isKnown then p else q

end Position

inductive Token
  | int (n : Int64)
  | float (x : Float)
  | char (c : Char)
  | string (s : String)
  /-- A piece of a back-quoted text that is followed by an interpolated block. -/
  | piece (s : String)
  | name (s : String)
  /-- A name that can be called but not bound. -/
  | callable (s : String)
  | keyword (s : String)
  | symbol (s : String)
  deriving Inhabited

namespace Token

def isSymbol (s : String) : Token → Bool
  | symbol t => s == t
  | _ => false

def isKeyword (s : String) : Token → Bool
  | keyword t => s == t
  | _ => false

end Token

/-- Why a source is no script, and where. -/
structure SyntaxFault where
  what : String
  pos : Position
  deriving Repr, DecidableEq, Inhabited

def SyntaxFault.message (f : SyntaxFault) : String :=
  if f.pos.isKnown then s!"{f.what} ({f.pos.text})" else f.what

/-- Words with a meaning in the grammar. -/
def keywords : List String :=
  ["true", "false", "let", "const", "if", "else", "switch", "do", "while", "until", "loop", "for",
    "in", "fn", "private", "return", "throw", "try", "catch", "break", "continue", "this"]

/-- Functions whose names no variable can have. -/
def callableWords : List String :=
  ["print", "debug", "type_of", "eval", "Fn", "call", "curry", "is_shared", "is_def_fn",
    "is_def_var"]

/-- Words kept free of any meaning. -/
def reservedWords : List String :=
  ["public", "protected", "super", "new", "use", "module", "package", "var", "static", "shared",
    "with", "is", "goto", "exit", "match", "case", "default", "void", "null", "nil", "spawn",
    "thread", "go", "sync", "async", "await", "yield", "import", "export", "as"]

def symbols3 : List String := ["**=", "<<=", ">>=", "..="]

def symbols2 : List String :=
  ["**", "+=", "-=", "*=", "/=", "%=", "&=", "|=", "^=", "==", "!=", "<=", ">=", "&&", "||", "<<",
    ">>", "=>", "..", "??", "?.", "?[", "#\x7b", "::"]

def symbols1 : List String :=
  ["\x7b", "\x7d", "(", ")", "[", "]", "+", "-", "*", "/", "%", ";", ":", ".", ",", "=", "<", ">",
    "!", "|", "&", "^"]

/-- Combinations of signs kept free of any meaning. -/
def reservedSymbols : List String :=
  ["===", "!==", "::<", "...", "++", "--", "->", "<-", ":=", "(*", "*)", "<|", "|>", "!.", "~", "@",
    "$", "#", "?"]

end RowScript.Script
