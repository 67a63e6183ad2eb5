import FacetFilter.Json.Basic
import FacetFilter.Json.StringText

/-!
# Writing documents

Documents are written without space, members in their order.
-/

namespace FacetFilter.Json

def separated (parts : List (List Char)) : List Char := (parts.intersperse [',']).flatten

mutual

def chars : Json → List Char
  | .null => ['n', 'u', 'l', 'l']
  | .bool true => ['t', 'r', 'u', 'e']
  | .bool false => ['f', 'a', 'l', 's', 'e']
  | .number value => value.render.toList
  | .string value => stringChars value
  | .array items => '[' :: (separated (itemsChars items) ++ [']'])
  | .object members => '\x7b' :: (separated (membersChars members) ++ ['\x7d'])

def itemsChars : List Json → List (List Char)
  | [] => []
  | item :: items => item.chars :: itemsChars items

def membersChars : List (String × Json) → List (List Char)
  | [] => []
  | (name, value) :: members =>
      (stringChars name ++ ':' :: value.chars) :: membersChars members

end

def render (value : Json) : String := String.ofList value.chars

end FacetFilter.Json
