import SessionSync.Text.Pieces
import SessionSync.Text.WhiteSpace

/-!
# Cookies

The web session lives in cookies. A jar keeps those that one host has set and sends all of them
back; a cookie that is set again takes the place of the old one, and one whose age is limited to
nothing is dropped.
-/

namespace SessionSync.Http

/-- The cookies of a host, as names with values. -/
abbrev CookieJar := List (String × String)

namespace CookieJar

/-- A name and a value around the first `=` of a text, without white space at their ends. -/
def nameAndValue (s : List Char) : List Char × Option (List Char) :=
  (Text.trim (s.takeWhile (· ≠ '=')),
    match s.dropWhile (· ≠ '=') with
    | _ :: value => some (Text.trim value)
    | [] => none)

/-- Whether the attributes of a cookie limit its age to nothing. -/
def isExpired (attributes : List (List Char)) : Bool :=
  attributes.any fun a =>
    match nameAndValue a with
    | (name, some value) =>
      name.map Char.toLower = "max-age".toList &&
        (value = ['0'] || value.head? = some '-')
    | _ => false

/-- The jar after a host has set a cookie; a text that sets none changes nothing. -/
def set (jar : CookieJar) (header : String) : CookieJar :=
  match Text.pieces ';' header.toList with
  | [] => jar
  | cookie :: attributes =>
    match nameAndValue cookie with
    | (_, none) => jar
    | ([], _) => jar
    | (name, some value) =>
      let name := String.ofList name
      let others := jar.filter (·.1 ≠ name)
      if isExpired attributes then others else others ++ [(name, String.ofList value)]

/-- The header that sends the cookies back, if there are any. -/
def header? (jar : CookieJar) : Option String :=
  if jar.isEmpty then none else some ("; ".intercalate (jar.map fun c => c.1 ++ "=" ++ c.2))

end CookieJar

end SessionSync.Http
