import FeatureService.Text.Blank

/-!
# Names of implementation types

An encoder may name the type that implements it. The last segment of that name
serves as identifier where no declared name can.
-/

namespace FeatureService.TypeName

/-- The text behind the last place where a separator stands, if it occurs. -/
def behindLast? (separator : List Char) : List Char → Option (List Char)
  | [] => none
  | c :: rest =>
      match behindLast? separator rest with
      | some found => some found
      | none =>
          if separator.isPrefixOf (c :: rest) then some ((c :: rest).drop separator.length)
          else none

/-- The text behind the last separator, or all of it where none occurs. -/
def behindLast (separator text : List Char) : List Char :=
  (behindLast? separator text).getD text

/-- The last segment of a type name. Generic arguments are dropped first, then
qualifiers with two colons, then qualifiers with a dot, then white space. -/
def short (typeName : String) : String :=
  let base := typeName.toList.takeWhile (· != '<')
  String.ofList (Text.trim (behindLast ['.'] (behindLast [':', ':'] base)))

end FeatureService.TypeName
