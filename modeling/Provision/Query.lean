namespace Provision

/-- Which page of a list is asked for, and how many items a page has. -/
structure Paging where
  pageNumber : Option UInt32 := none
  pageSize : Option UInt32 := none
deriving DecidableEq, Repr

/-- The paging of the next page. Pages are counted from 1, which is also the page that is meant
without a number. -/
def Paging.next (paging : Paging) : Paging :=
  { paging with pageNumber := some (paging.pageNumber.getD 1 + 1) }

def Paging.walk (paging : Paging) : Nat → List Paging
  | 0 => [paging]
  | n + 1 => paging :: paging.next.walk n

structure Query where
  pairs : List (String × String) := []
deriving DecidableEq, Repr

namespace Query

def empty : Query := {}

def isEmpty (query : Query) : Bool := query.pairs.isEmpty

def push {α : Type} [ToString α] (query : Query) (name : String) (value : α) : Query :=
  ⟨query.pairs ++ [(name, toString value)]⟩

def pushSome {α : Type} [ToString α] (query : Query) (name : String) : Option α → Query
  | none => query
  | some value => query.push name value

def pushPaging (query : Query) : Option Paging → Query
  | none => query
  | some paging =>
    (query.pushSome "pageNumber" paging.pageNumber).pushSome "pageSize" paging.pageSize

end Query

end Provision
