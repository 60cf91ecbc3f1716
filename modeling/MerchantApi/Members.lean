/-!
# Named members

The members of a JSON object and the entries of a map from texts are kept as
pairs in increasing order of their names.  Names compare by code point, which
is also the order of their UTF-8 bytes.
-/

namespace MerchantApi

/-- Values under distinct names, in increasing order of the names. -/
abbrev Members (α : Type) := List (String × α)

namespace Members

variable {α β : Type}

def get? : Members α → String → Option α
  | [], _ => none
  | (n, v) :: rest, name => if n = name then some v else get? rest name

def has (members : Members α) (name : String) : Bool :=
  (get? members name).isSome

def insert (name : String) (value : α) : Members α → Members α
  | [] => [(name, value)]
  | (n, v) :: rest =>
    if name < n then (name, value) :: (n, v) :: rest
    else if name = n then (name, value) :: rest
    else (n, v) :: insert name value rest

def erase (name : String) (members : Members α) : Members α :=
  members.filter fun entry => entry.1 ≠ name

def overlay (target source : Members α) : Members α :=
  source.foldl (fun acc entry => insert entry.1 entry.2 acc) target

/-- The members given by a list of pairs; of a repeated name the last value counts. -/
def ofList (pairs : List (String × α)) : Members α :=
  overlay [] pairs

def names (members : Members α) : List String :=
  members.map Prod.fst

def Sorted (members : Members α) : Prop :=
  members.Pairwise fun a b => a.1 < b.1

@[simp] theorem get?_nil (name : String) : get? ([] : Members α) name = none := rfl

theorem get?_cons (n : String) (v : α) (rest : Members α) (name : String) :
    get? ((n, v) :: rest) name = if n = name then some v else get? rest name := rfl

theorem get?_insert (name other : String) (value : α) (members : Members α) :
    get? (insert name value members) other =
      if name = other then some value else get? members other := by
  induction members with
  | nil => rfl
  | cons entry rest ih =>
    obtain ⟨n, v⟩ := entry
    unfold insert
    split
    · simp only [get?_cons]
    · split
      · rename_i h
        subst h
        simp only [get?_cons]
        split <;> rfl
      · rename_i h
        simp only [get?_cons, ih]
        split
        · rename_i hn
          subst hn
          rw [if_neg h]
        · rfl

end Members

end MerchantApi
