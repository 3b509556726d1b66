/-!
# Environment variables

The variables that a run sees, and the expansion of references `${NAME}` in secrets. A
reference to an unset variable stands for nothing; anything that is not exactly a reference is kept
as it is, and what a variable holds is never expanded again.
-/

namespace BrokerRelay

/-- The variables that are set, by name. -/
structure Environment where
  vars : List (String × String)
deriving Repr

namespace Environment

/-- No variable is set. -/
def empty : Environment := ⟨[]⟩

/-- The value of a variable. -/
def get? (env : Environment) (name : String) : Option String := env.vars.lookup name

/-- The value of a variable, or nothing. -/
def getD (env : Environment) (name : String) : String := (env.get? name).getD ""

/-- A character that a variable name may hold. -/
def isNameChar (c : Char) : Bool := c.isAlphanum || c == '_'

/-- A variable name: not empty and not starting with a digit. -/
def isName : List Char → Bool
  | [] => false
  | c :: cs => (c.isAlpha || c == '_') && cs.all isNameChar

/-- A reference at the front: the name and what follows the closing brace. -/
def reference? : List Char → Option (List Char × List Char)
  | '$' :: '\x7b' :: cs =>
    match cs.dropWhile isNameChar with
    | '\x7d' :: rest =>
      if isName (cs.takeWhile isNameChar) then some (cs.takeWhile isNameChar, rest) else none
    | _ => none
  | _ => none

theorem length_lt_of_reference? {cs name rest : List Char}
    (h : reference? cs = some (name, rest)) : rest.length < cs.length := by
  unfold reference? at h
  split at h
  · rename_i tail
    split at h
    · rename_i r hr
      have hle : (tail.dropWhile isNameChar).length ≤ tail.length :=
        (List.dropWhile_suffix isNameChar).length_le
      split at h
      · simp only [Option.some.injEq, Prod.mk.injEq] at h
        rw [hr] at hle
        simp only [List.length_cons] at hle ⊢
        rw [← h.2]
        omega
      · simp at h
    · simp at h
  · simp at h

/-- Replaces every reference in a list of characters. -/
def expandChars (env : Environment) (cs : List Char) : List Char :=
  match _h : reference? cs with
  | some (name, rest) => (env.getD (String.ofList name)).toList ++ expandChars env rest
  | none =>
    match cs with
    | [] => []
    | c :: rest => c :: expandChars env rest
termination_by cs.length
decreasing_by
  · exact length_lt_of_reference? _h
  · simp

/-- The names that a list of characters refers to. -/
def mentioned : List Char → List String
  | [] => []
  | c :: cs =>
    match reference? (c :: cs) with
    | some (name, _) => String.ofList name :: mentioned cs
    | none => mentioned cs

/-- Replaces every reference in a text. -/
def expand (env : Environment) (s : String) : String := String.ofList (env.expandChars s.toList)

end Environment

end BrokerRelay
