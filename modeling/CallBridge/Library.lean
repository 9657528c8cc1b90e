import CallBridge.Reply

/-!
Dynamic libraries and the addresses of their symbols. A library asks the loader once for each symbol
and remembers the address.
-/

namespace CallBridge

inductive LoadError where
  | invalidName
  | failed (text : String)
deriving DecidableEq, Repr

namespace LoadError

def message : LoadError → String
  | invalidName => "Invalid library name"
  | failed text => "Failed to load library: " ++ text

def debug : LoadError → String
  | invalidName => "InvalidName"
  | failed text => "LoadFailed(" ++ Text.quoted text ++ ")"

end LoadError

inductive SymbolError where
  | invalidName
  | notFound (name : String)
deriving DecidableEq, Repr

namespace SymbolError

def message : SymbolError → String
  | invalidName => "Invalid symbol name"
  | notFound name => "Symbol not found: " ++ name

def debug : SymbolError → String
  | invalidName => "InvalidName"
  | notFound name => "NotFound(" ++ Text.quoted name ++ ")"

end SymbolError

/-- How a library is loaded. -/
structure LoadFlags where
  now : Bool := false
  isolated : Bool := false
  global : Bool := false
deriving DecidableEq, Repr

/-- All symbols at once, none of them visible to later loads. -/
def LoadFlags.usual : LoadFlags where
  now := true
  isolated := true

/-- The dynamic loader: it opens a library, or the running process if no name is given, and finds
symbols in what it opened. -/
structure Loader (κ : Type) where
  load : Option String → LoadFlags → Except String κ
  find : κ → String → Option Word

/-- Ask for a symbol. The question is put down behind those that were asked before. -/
def Loader.ask {κ : Type} (loader : Loader κ) (handle : κ) (name : String) :
    StateM (List String) (Option Word) := fun asked =>
  (loader.find handle name, asked ++ [name])

/-- Counters of the process. They wrap, like the words that they are. -/
structure Stats where
  calls : Word := 0
  libraries : Word := 0
  symbols : Word := 0
deriving DecidableEq, Repr

namespace Stats

def callsMade (s : Stats) : Nat := s.calls.toNat

def librariesLoaded (s : Stats) : Nat := s.libraries.toNat

def symbolsResolved (s : Stats) : Nat := s.symbols.toNat

end Stats

structure Library (κ : Type) where
  handle : κ
  name : String
  symbols : List (String × Word) := []
deriving DecidableEq

namespace Library

variable {κ : Type}

def load (loader : Loader κ) (s : Stats) (request : Option String) (name : String)
    (flags : LoadFlags) : Reply LoadError Stats (Library κ) :=
  match loader.load request flags with
  | .ok handle =>
    .ok { handle, name } [.libraryLoaded name]
      { s with libraries := s.libraries + 1 }
  | .error text => .refuse (.failed text) [] s

def openNamed (loader : Loader κ) (s : Stats) (name : String) (flags : LoadFlags := .usual) :
    Reply LoadError Stats (Library κ) :=
  if '\x00' ∈ name.toList then .refuse .invalidName [] s else load loader s (some name) name flags

/-- The running process and everything that it has loaded. -/
def openSelf (loader : Loader κ) (s : Stats) : Reply LoadError Stats (Library κ) :=
  load loader s none "<self>" { now := true }

/-- Address of a symbol, with the names that the loader was asked for. -/
def symbol (loader : Loader κ) (l : Library κ) (s : Stats) (name : String) :
    StateM (List String) (Reply SymbolError (Library κ × Stats) Word) :=
  match l.symbols.lookup name with
  | some address => pure (.ok address [] (l, s))
  | none =>
    if '\x00' ∈ name.toList then pure (.refuse .invalidName [] (l, s))
    else do
      match ← loader.ask l.handle name with
      | none => pure (.refuse (.notFound name) [] (l, s))
      | some address =>
        pure (.ok address [.symbolResolved l.name name address]
          ({ l with symbols := (name, address) :: l.symbols },
           { s with symbols := s.symbols + 1 }))

def debug (l : Library κ) : String :=
  Text.shownRecord "Library"
    [("name", Text.quoted l.name), ("cached_symbols", toString l.symbols.length)]

end Library

end CallBridge
