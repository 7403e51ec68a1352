import CaptureLink.Text.Hidden

/-
  Texts as they are shown in messages: between quotes, with
  escapes for what could not be seen otherwise.

  Key definitions include:
    * `Text.shown`
    * `Text.quoted`
-/

namespace CaptureLink

namespace Text

/- A character by its code. -/
def byCode (c : Char) : List Char :=
  '\\' :: 'u' :: '\x7b' :: (Nat.toDigits 16 c.toNat ++ ['\x7d'])

/- A character between quotes. -/
def shown (c : Char) : List Char :=
  match c with
  | '\x00' => ['\\', '0']
  | '\t' => ['\\', 't']
  | '\n' => ['\\', 'n']
  | '\r' => ['\\', 'r']
  | '"' => ['\\', '"']
  | '\\' => ['\\', '\\']
  | c => if isHidden c then byCode c else [c]

/- A text between quotes. -/
def quoted (s : String) : String :=
  String.ofList ('"' :: (s.toList.flatMap shown ++ ['"']))

end Text

end CaptureLink
