import Herald.Net.Address
import Herald.Toml.Blank

/-!
Strings and keys of a TOML document. A string in double quotes knows escapes, one in single quotes
is taken as it stands; three quotes let a string go over several lines and hold quotes, of which up
to two may stand right before the closing three.
-/
namespace Herald.Toml

/-- May stand in a string; quotes and backslashes are looked at first. -/
def isStringChar (c : Char) : Bool :=
  isCommentChar c

def codePoint? (count : Nat) (cs : List Char) : Option (Char × List Char) := do
  let digits ← (cs.take count).mapM Address.hexDigit?
  let code := Address.ofDigits 16 digits
  if digits.length = count && code.isValidChar then some (Char.ofNat code, cs.drop count) else none

def escape? : List Char → Option (Char × List Char)
  | 'b' :: rest => some ('\x08', rest)
  | 't' :: rest => some ('\t', rest)
  | 'n' :: rest => some ('\n', rest)
  | 'f' :: rest => some ('\x0c', rest)
  | 'r' :: rest => some ('\r', rest)
  | '"' :: rest => some ('"', rest)
  | '\\' :: rest => some ('\\', rest)
  | 'u' :: rest => codePoint? 4 rest
  | 'U' :: rest => codePoint? 8 rest
  | _ => none

theorem length_lt_of_escape? {cs rest : List Char} {c : Char} (h : escape? cs = some (c, rest)) :
    rest.length < cs.length := by
  have code {count : Nat} {ds : List Char} (h : codePoint? count ds = some (c, rest)) :
      rest.length ≤ ds.length := by
    simp only [codePoint?, Option.bind_eq_bind, Option.bind_eq_some_iff] at h
    obtain ⟨digits, -, h⟩ := h
    split at h
    · simp only [Option.some.injEq, Prod.mk.injEq] at h
      rw [← h.2, List.length_drop]
      omega
    · cases h
  unfold escape? at h
  split at h
  case h_8 => exact Nat.lt_succ_of_le (code h)
  case h_9 => exact Nat.lt_succ_of_le (code h)
  case h_10 => cases h
  all_goals
    simp only [Option.some.injEq, Prod.mk.injEq] at h
    simp [h.2]

def prepend (cs : List Char) : Option (List Char × List Char) → Option (List Char × List Char) :=
  Option.map fun (more, rest) => (cs ++ more, rest)

def basic (cs : List Char) : Option (List Char × List Char) :=
  match cs with
  | [] => none
  | '"' :: rest => some ([], rest)
  | '\\' :: rest =>
    match h : escape? rest with
    | some (c, more) =>
      have := length_lt_of_escape? h
      prepend [c] (basic more)
    | none => none
  | c :: rest => if isStringChar c then prepend [c] (basic rest) else none
termination_by cs.length

def literal : List Char → Option (List Char × List Char)
  | [] => none
  | '\'' :: rest => some ([], rest)
  | c :: rest => if isStringChar c then prepend [c] (literal rest) else none

/-- The closing three quotes, after up to two that belong to the string. -/
def closing? (quote : Char) (cs : List Char) : Option (List Char × List Char) :=
  let quotes := ((cs.take 5).takeWhile (· = quote)).length
  if quotes < 3 then none else some (List.replicate (quotes - 3) quote, cs.drop quotes)

/-- A backslash at the end of a line takes away all blanks and line ends after it. -/
def continued? (cs : List Char) : Option (List Char) :=
  (newline? (skipSpace cs)).map skipBreaks

theorem length_lt_of_newline? {cs rest : List Char} (h : newline? cs = some rest) :
    rest.length < cs.length := by
  unfold newline? at h
  split at h
  · simp_all
  · simp only [Option.some.injEq] at h
    simp only [h, List.length_cons]
    omega
  · cases h

theorem length_lt_of_continued? {cs rest : List Char} (h : continued? cs = some rest) :
    rest.length < cs.length := by
  obtain ⟨after, hafter, rfl⟩ := Option.map_eq_some_iff.1 h
  have := length_lt_of_newline? hafter
  have := length_skipBreaks_le after
  have := (List.dropWhile_sublist isSpace (l := cs)).length_le
  simp only [skipSpace] at *
  omega

def basicLines (cs : List Char) : Option (List Char × List Char) :=
  match closing? '"' cs with
  | some done => some done
  | none =>
    match cs with
    | [] => none
    | '\\' :: rest =>
      match h : continued? rest with
      | some more =>
        have := length_lt_of_continued? h
        basicLines more
      | none =>
        match h : escape? rest with
        | some (c, more) =>
          have := length_lt_of_escape? h
          prepend [c] (basicLines more)
        | none => none
    | '\r' :: '\n' :: rest => prepend ['\n'] (basicLines rest)
    | c :: rest =>
      if c = '\n' || isStringChar c then prepend [c] (basicLines rest) else none
termination_by cs.length

def literalLines (cs : List Char) : Option (List Char × List Char) :=
  match closing? '\'' cs with
  | some done => some done
  | none =>
    match cs with
    | [] => none
    | '\r' :: '\n' :: rest => prepend ['\n'] (literalLines rest)
    | c :: rest =>
      if c = '\n' || isStringChar c then prepend [c] (literalLines rest) else none
termination_by cs.length

/-- A line end right after the opening quotes is no part of the string. -/
def afterOpening (cs : List Char) : List Char :=
  (newline? cs).getD cs

def string : Reader String := fun cs =>
  let chars :=
    match cs with
    | '"' :: '"' :: '"' :: rest => basicLines (afterOpening rest)
    | '"' :: rest => basic rest
    | '\'' :: '\'' :: '\'' :: rest => literalLines (afterOpening rest)
    | '\'' :: rest => literal rest
    | _ => none
  chars.map fun (text, rest) => (String.ofList text, rest)

def isBareChar (c : Char) : Bool :=
  c.isAlphanum || c = '-' || c = '_'

def keyPart : Reader String := fun cs =>
  match cs with
  | '"' :: rest => (basic rest).map fun (text, rest) => (String.ofList text, rest)
  | '\'' :: rest => (literal rest).map fun (text, rest) => (String.ofList text, rest)
  | cs =>
    match cs.span isBareChar with
    | ([], _) => none
    | (name, rest) => some (String.ofList name, rest)

/-- Parts of a key between points, with spaces around them. -/
def keyParts (cs : List Char) : Option (List String × List Char) :=
  match keyPart (skipSpace cs) with
  | none => none
  | some (name, rest) =>
    match skipSpace rest with
    | '.' :: more =>
      if more.length < cs.length then
        (keyParts more).map fun (names, rest) => (name :: names, rest)
      else none
    | rest => some ([name], rest)
termination_by cs.length

def maxDepth : Nat := 79

def key : Reader (List String) := fun cs =>
  (keyParts cs).filter fun (names, _) => names.length ≤ maxDepth

end Herald.Toml
