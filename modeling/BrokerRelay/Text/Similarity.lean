/-!
# Similarity of words

The Jaro similarity of two words: characters match when they are equal and their places lie near each
other, and matched characters in another order count half. It is held as a fraction, so that it is
compared exactly.
-/

namespace BrokerRelay.Text

/-- A fraction between zero and one. -/
structure Similarity where
  num : Nat
  den : Nat
deriving DecidableEq, Repr

/-- The fraction is greater than another one. -/
def Similarity.exceeds (a b : Similarity) : Bool := b.num * a.den < a.num * b.den

/-- The first free place of `c` among places `low` to `high`; `taken` are the places in use. -/
def freePlace? (b : List Char) (taken : List Nat) (c : Char) (low high : Nat) : Option Nat :=
  (List.range b.length).find? fun j =>
    low ≤ j && j ≤ high && b[j]? == some c && !taken.contains j

/-- The places of one word that match places of another: of both words, in the order of the
first. -/
def matchedPlaces (a b : List Char) : List (Nat × Nat) :=
  let reach := max a.length b.length / 2 - 1
  a.zipIdx.foldl
    (fun found (c, i) =>
      match freePlace? b (found.map Prod.snd) c (i - reach) (i + reach) with
      | some j => found ++ [(i, j)]
      | none => found)
    []

/-- The similarity of two words. -/
def similarity (a b : List Char) : Similarity :=
  let pairs := matchedPlaces a b
  let m := pairs.length
  if m = 0 then (if a = [] ∧ b = [] then ⟨1, 1⟩ else ⟨0, 1⟩)
  else
    let inA := pairs.filterMap fun (i, _) => a[i]?
    let inB := (List.range b.length).filterMap fun j =>
      if (pairs.map Prod.snd).contains j then b[j]? else none
    let moved := ((List.zip inA inB).countP fun (x, y) => x != y) / 2
    ⟨m * b.length * m + m * a.length * m + (m - moved) * a.length * b.length,
      3 * a.length * b.length * m⟩

end BrokerRelay.Text
