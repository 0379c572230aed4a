import Columnar.Unicode.CombiningClass
import Columnar.Unicode.Joining

/-!
Joiners in domain names: two characters without a shape of their own, which make their neighbours
join or not.

They are allowed where they change how a name looks: behind a sign that mutes a vowel, and, for the
one that keeps letters apart, between two letters that would join.
-/

namespace Columnar.Url.Domain

/-- The character that keeps two letters apart. -/
def nonJoiner : Char := '\u200c'

/-- The character that makes two letters join. -/
def joiner : Char := '\u200d'

/-- Whether the text in front of a place, in reverse, joins the letter there. -/
def joinsFrom (before : List Char) : Bool :=
  (before.dropWhile Unicode.isTransparent).head?.any Unicode.joinsNext

/-- Whether the text behind a place joins the letter there. -/
def joinsInto (after : List Char) : Bool :=
  (after.dropWhile Unicode.isTransparent).head?.any Unicode.joinsPrevious

/-- Whether a joiner may stand behind and in front of given texts, the first one in reverse. -/
def allowsJoiner (before : List Char) (c : Char) (after : List Char) : Bool :=
  before.head?.any (fun d => Unicode.combiningClass d = Unicode.viramaClass)
    || (c = nonJoiner && joinsFrom before && joinsInto after)

/-- Whether all joiners in a text may stand where they do, behind a text in reverse. -/
def allowsJoiners (before : List Char) : List Char → Bool
  | [] => true
  | c :: rest =>
    ((c != nonJoiner && c != joiner) || allowsJoiner before c rest)
      && allowsJoiners (c :: before) rest

end Columnar.Url.Domain
