import ShapeCheck.Text.Digit

/-!
# References to types

A `TypeRef` names a type of a schema by namespace, version and type name. Its text is `namespace/version#name`, which
`TypeRef.split?` takes apart: at the first `#`, and before that at the last `/`. The three parts are checked when a
reference is made, so every `TypeRef` is well formed.
-/

namespace ShapeCheck

/-- `ns://` and at least one character, none of them a line feed. -/
def isNamespace (s : String) : Bool :=
  match s.toList with
  | 'n' :: 's' :: ':' :: '/' :: '/' :: rest => !rest.isEmpty && !rest.contains '\n'
  | _ => false

/-- The pieces of a list between the characters equal to `sep`. -/
def splitAtChar (sep : Char) : List Char → List (List Char)
  | [] => [[]]
  | c :: rest =>
    if c = sep then [] :: splitAtChar sep rest
    else match splitAtChar sep rest with
      | [] => [[c]]
      | piece :: pieces => (c :: piece) :: pieces

theorem splitAtChar_of_not_mem {sep : Char} : ∀ {cs : List Char}, sep ∉ cs → splitAtChar sep cs = [cs]
  | [], _ => rfl
  | c :: rest, h => by
    have hc : c ≠ sep := fun heq => h (heq ▸ List.mem_cons_self ..)
    rw [splitAtChar, if_neg hc, splitAtChar_of_not_mem fun hrest => h (List.mem_cons_of_mem _ hrest)]

/-- The first piece ends at the first separator. -/
theorem splitAtChar_append {sep : Char} (rest : List Char) :
    ∀ {piece : List Char}, sep ∉ piece → splitAtChar sep (piece ++ sep :: rest) = piece :: splitAtChar sep rest
  | [], _ => by rw [List.nil_append, splitAtChar, if_pos rfl]
  | c :: piece, h => by
    have hc : c ≠ sep := fun heq => h (heq ▸ List.mem_cons_self ..)
    rw [List.cons_append, splitAtChar, if_neg hc, splitAtChar_append rest fun hpiece => h (List.mem_cons_of_mem _ hpiece)]

/-- Three runs of decimal digits with points between them. -/
def isVersion (s : String) : Bool :=
  match splitAtChar '.' s.toList with
  | [a, b, c] => [a, b, c].all fun run => !run.isEmpty && run.all Text.isVersionDigit
  | _ => false

/-- A reference to a type of a schema, perhaps of another one. -/
structure TypeRef where
  namespaceName : String
  version : String
  name : String
  namespace_ok : isNamespace namespaceName = true
  version_ok : isVersion version = true
  name_ok : name ≠ ""
deriving DecidableEq

namespace TypeRef

/-- The reference with the given parts, if they are well formed. -/
def make? (namespaceName version name : String) : Option TypeRef :=
  if h : isNamespace namespaceName = true ∧ isVersion version = true ∧ name ≠ "" then
    some ⟨namespaceName, version, name, h.1, h.2.1, h.2.2⟩
  else none

/-- The key under which the schema of the type is registered. -/
def schemaKey (r : TypeRef) : String := r.namespaceName ++ "/" ++ r.version

def text (r : TypeRef) : String := r.schemaKey ++ "#" ++ r.name

/-- Why a text has no three parts. -/
inductive SplitError where
  | noName (text : String)
  | noVersion (text : String)
deriving DecidableEq, Repr

/-- The text before the last occurrence of a character, and the text after it. -/
def cutLast? (sep : Char) (cs : List Char) : Option (List Char × List Char) :=
  let tail := cs.reverse.takeWhile (· ≠ sep)
  match cs.reverse.dropWhile (· ≠ sep) with
  | [] => none
  | _ :: head => some (head.reverse, tail.reverse)

/-- Namespace, version and name of the textual form, not yet checked. -/
def split? (s : String) : Except SplitError (String × String × String) :=
  let cs := s.toList
  match cs.dropWhile (· ≠ '#') with
  | [] => .error (.noName s)
  | _ :: name =>
    match cutLast? '/' (cs.takeWhile (· ≠ '#')) with
    | none => .error (.noVersion s)
    | some (ns, version) => .ok (String.ofList ns, String.ofList version, String.ofList name)

end TypeRef

end ShapeCheck
