/-!
# Upper and lower case

`lowerAscii` and `upperAscii` change ASCII letters only.  `lowerName` is for texts that are then
compared with names in ASCII.
-/

namespace NodeAlerts.Text

/-- A text with its ASCII letters in lower case. -/
def lowerAscii (s : String) : String := String.ofList (s.toList.map Char.toLower)

/-- A text with its ASCII letters in upper case. -/
def upperAscii (s : String) : String := String.ofList (s.toList.map Char.toUpper)

/-- The Kelvin sign, the one character outside of ASCII whose lower case is an ASCII letter. -/
def kelvinSign : Char := '\u212a'

/-- A text with the letters in lower case that are ASCII letters then. -/
def lowerName (s : String) : String :=
  String.ofList (s.toList.map fun c => if c = kelvinSign then 'k' else c.toLower)

end NodeAlerts.Text
