import Hardening.Text.Hidden

/-!
# Quoted names

Names of files are shown between double quotes. Quotes, backslashes and characters that do not show
by themselves are written as escapes; everything else, the single quote included, stands for itself.
-/
namespace Hardening.Text

/-- The hexadecimal escape of a character. -/
def codeEscape (c : Char) : List Char :=
  "\\u\x7b".toList ++ Nat.toDigits 16 c.toNat ++ ['\x7d']

def quoteChar (c : Char) : List Char :=
  match c with
  | '"' => ['\\', '"']
  | '\\' => ['\\', '\\']
  | '\t' => ['\\', 't']
  | '\n' => ['\\', 'n']
  | '\r' => ['\\', 'r']
  | '\x00' => ['\\', '0']
  | c => if isHidden c then codeEscape c else [c]

/-- A name between double quotes. -/
def quote (name : String) : String :=
  String.ofList ('"' :: name.toList.flatMap quoteChar ++ ['"'])

end Hardening.Text
