import CancellationPolicy.Settings.Document
import CancellationPolicy.Text.Split

/-! # Single settings

A setting is found by a key of names between points, which leads through the
document of the settings. The members of what is found are in the order of their
names, and its numbers have 64 bits.
-/

namespace CancellationPolicy

namespace Json

mutual

/-- The value with its numbers in 64 bits and its members in order. -/
def widen : Json → Json
  | number (.single x) => double (x.convert .double)
  | array xs => array (widenItems xs)
  | object ms => ofMembers (widenMembers ms)
  | x => x

/-- The items with their numbers in 64 bits. -/
def widenItems : List Json → List Json
  | [] => []
  | x :: xs => widen x :: widenItems xs

/-- The members with their numbers in 64 bits. -/
def widenMembers : List (String × Json) → List (String × Json)
  | [] => []
  | (k, v) :: ms => (k, widen v) :: widenMembers ms

end

/-- The value to which names lead. -/
def follow? (names : List String) (x : Json) : Option Json :=
  names.foldlM (fun x name => x.member? name) x

end Json

/-- The setting under a key. -/
def Settings.lookup? (key : String) (s : Settings) : Option Json :=
  s.toJson.widen.follow? ((Text.split (· = '.') key.toList).map String.ofList)

end CancellationPolicy
