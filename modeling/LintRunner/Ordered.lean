/-!
# Ordered tables

A table is a list of entries with pairwise different keys, in the order in which the keys came. A new
value for a known key takes the place of the old one.
-/

set_option autoImplicit false

namespace LintRunner.Ordered

variable {κ α β : Type} [BEq κ]

/-- Sets the value of a key: in its place if the key is known, at the end otherwise. -/
def put (key : κ) (value : α) : List (κ × α) → List (κ × α)
  | [] => [(key, value)]
  | entry :: rest =>
      if entry.1 == key then (entry.1, value) :: rest else entry :: put key value rest

def putAll (table : List (κ × α)) (entries : List (κ × α)) : List (κ × α) :=
  entries.foldl (fun table entry => put entry.1 entry.2 table) table

/-- The table of a list of entries, of which the last one for each key counts. -/
def ofList (entries : List (κ × α)) : List (κ × α) := putAll [] entries

def keys (table : List (κ × α)) : List κ := table.map Prod.fst

def push (key : κ) (value : β) : List (κ × List β) → List (κ × List β)
  | [] => [(key, [value])]
  | entry :: rest =>
      if entry.1 == key then (entry.1, entry.2 ++ [value]) :: rest else entry :: push key value rest

end LintRunner.Ordered
