/-!
TOML values, and tables as they are put together from headers and keys.
-/

namespace CallBridge.Toml

/-- How a table came about, which decides what may still be added to it. -/
inductive Form where
  /-- Written out between braces; nothing may be added. -/
  | closed
  /-- Opened by a header of its own. -/
  | header
  /-- Named on the way to a table with a header. -/
  | implied
  /-- Named on the way to a dotted key. -/
  | dotted
deriving DecidableEq, Repr

inductive Value where
  | string (s : String)
  | integer (i : Int)
  | boolean (b : Bool)
  | float (literal : String)
  | moment (literal : String)
  | array (items : List Value)
  | table (form : Form) (entries : List (String × Value))
  /-- Tables under one name with a header each. -/
  | tables (items : List Value)

abbrev Table := List (String × Value)

namespace Table

/-- Replace the value of a key that the table has. -/
def replace (t : Table) (key : String) (v : Value) : Table :=
  t.map fun entry => if entry.1 = key then (key, v) else entry

/-- Change the table at the end of a path. Tables missing on the way are added. A dotted path does
not lead through a table that has a header, and no path leads through a closed table or a value;
of several tables under one name, the last is meant. -/
def update (byDots : Bool) (change : Form → Table → Option (Form × Table)) :
    (path : List String) → Form → Table → Option (Form × Table)
  | [], form, t => change form t
  | key :: path, form, t =>
    match t.lookup key with
    | none => do
      let (f, sub) ← update byDots change path (if byDots then .dotted else .implied) []
      some (form, t ++ [(key, .table f sub)])
    | some (.table .closed _) => none
    | some (.table f sub) =>
      if byDots && f == .header then none else do
        let (f', sub') ← update byDots change path f sub
        some (form, t.replace key (.table f' sub'))
    | some (.tables items) =>
      match items.getLast? with
      | some (.table f sub) => do
        let (f', sub') ← update byDots change path f sub
        some (form, t.replace key (.tables (items.dropLast ++ [.table f' sub'])))
      | _ => none
    | some _ => none

/-- Add a value under a dotted key. Tables on the way must be of the key's own making. -/
def insert (t : Table) (form : Form) (path : List String) (key : String) (v : Value) :
    Option (Form × Table) :=
  update true (fun f sub =>
    if (path ≠ [] ∧ f ≠ .dotted) ∨ (sub.lookup key).isSome then none
    else some (f, sub ++ [(key, v)])) path form t

/-- Open a table under a header. A table may be opened once, also after it was implied. -/
def openTable (t : Table) (path : List String) (key : String) : Option Table :=
  (update false (fun f sub =>
    match sub.lookup key with
    | none => some (f, sub ++ [(key, .table .header [])])
    | some (.table .implied entries) => some (f, sub.replace key (.table .header entries))
    | some _ => none) path .header t).map Prod.snd

/-- Open one more table under a header for several. -/
def openNext (t : Table) (path : List String) (key : String) : Option Table :=
  (update false (fun f sub =>
    match sub.lookup key with
    | none => some (f, sub ++ [(key, .tables [.table .header []])])
    | some (.tables items) => some (f, sub.replace key (.tables (items ++ [.table .header []])))
    | some _ => none) path .header t).map Prod.snd

end Table

end CallBridge.Toml
