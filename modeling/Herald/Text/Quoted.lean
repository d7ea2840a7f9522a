import Herald.Text.Unprintable

/-!
Quoted text for messages. A text stands between double quotes, a character between single ones;
the quote in use and the backslash are written with a backslash in front, and a character that
cannot be shown is written as its code point.
-/
namespace Herald.Text.Quoted

def charText (quote c : Char) : List Char :=
  match c with
  | '\x00' => ['\\', '0']
  | '\t' => ['\\', 't']
  | '\r' => ['\\', 'r']
  | '\n' => ['\\', 'n']
  | '\\' => ['\\', '\\']
  | c =>
    if c = quote then ['\\', c]
    else if isUnprintable c then
      ['\\', 'u', '{'] ++ Nat.toDigits 16 c.toNat ++ ['}']
    else [c]

def ofString (s : String) : String :=
  String.ofList ('"' :: s.toList.flatMap (charText '"') ++ ['"'])

def ofChar (c : Char) : String :=
  String.ofList ('\'' :: charText '\'' c ++ ['\''])

end Herald.Text.Quoted
