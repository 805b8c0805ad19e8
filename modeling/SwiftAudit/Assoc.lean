namespace SwiftAudit.Assoc

variable {κ α : Type} [BEq κ]

-- Association lists keep one entry per key, in the order in which the keys came first.
def put (key : κ) (value : α) : List (κ × α) → List (κ × α)
  | [] => [(key, value)]
  | (k, v) :: rest => if k == key then (k, value) :: rest else (k, v) :: put key value rest

-- Entries of `updates` replace those of `base` under the same key.
def merge (base updates : List (κ × α)) : List (κ × α) :=
  updates.foldl (fun table (key, value) => put key value table) base

def ofList (entries : List (κ × α)) : List (κ × α) := merge [] entries

-- Adds a value to the group of its key.
def push (key : κ) (value : α) (groups : List (κ × List α)) : List (κ × List α) :=
  put key ((groups.lookup key).getD [] ++ [value]) groups

end SwiftAudit.Assoc
