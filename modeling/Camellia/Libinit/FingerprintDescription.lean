import Camellia.StdString

/-!
# The description of a build

`fingerprint_to_description` cuts a fingerprint
`brand/product/device:version/id/number:variant/tags` at its delimiters, from the
left, and puts five of the pieces together in another order.  Each cut looks for one
delimiter only, so a piece may contain the other one; and a delimiter that is missing
leaves the string as it is.
-/

namespace Camellia.Libinit

open StdString

/-- The macro `FIND_AND_REMOVE`: the piece before the delimiter and what remains. -/
def findAndRemove (s delimiter : String) : Option (String × String) := do
  let piece ← substr s 0 (find s delimiter)
  let rest ← erase s 0 (advance (find s delimiter) delimiter.toList.length)
  return (piece, rest)

def appendString (s toAppend : String) : String := s ++ " " ++ toAppend

def fingerprintToDescription (fingerprint : String) : Option String := do
  let delimiter := "/"
  let delimiter2 := ":"
  let (_brand, copy) ← findAndRemove fingerprint delimiter
  let (product, copy) ← findAndRemove copy delimiter
  let (_device, copy) ← findAndRemove copy delimiter2
  let (platformVersion, copy) ← findAndRemove copy delimiter
  let (buildId, copy) ← findAndRemove copy delimiter
  let (buildNumber, copy) ← findAndRemove copy delimiter2
  let (buildVariant, buildVersionTags) ← findAndRemove copy delimiter
  let description := product ++ "-" ++ buildVariant
  let description := appendString description platformVersion
  let description := appendString description buildId
  let description := appendString description buildNumber
  return appendString description buildVersionTags

/-- A cut never fails, with or without a delimiter. -/
theorem findAndRemove_bind_isSome {α : Type} (s delimiter : String)
    {next : String × String → Option α} (hnext : ∀ pieces, (next pieces).isSome = true) :
    (findAndRemove s delimiter >>= next).isSome = true := by
  rw [findAndRemove, substr_zero, erase_zero]
  exact hnext _

theorem findAndRemove_append {piece delimiter : String} {c : Char}
    (hdelimiter : delimiter.toList = [c]) (hpiece : c ∉ piece.toList) (rest : String) :
    findAndRemove (piece ++ (delimiter ++ rest)) delimiter = some (piece, rest) := by
  have hlength : advance (some piece.toList.length) delimiter.toList.length =
      (piece ++ delimiter).toList.length := by
    rw [String.toList_append, List.length_append]
    rfl
  rw [findAndRemove, find_append hdelimiter hpiece, substr_append, hlength,
    ← String.append_assoc, erase_append]
  rfl

theorem findAndRemove_append_bind {α : Type} {piece delimiter : String} {c : Char}
    (hdelimiter : delimiter.toList = [c]) (hpiece : c ∉ piece.toList) (rest : String)
    (next : String × String → Option α) :
    (findAndRemove (piece ++ (delimiter ++ rest)) delimiter >>= next) = next (piece, rest) := by
  rw [findAndRemove_append hdelimiter hpiece]
  rfl

/-- The pieces of a fingerprint, with what each of them must not contain for the cut
behind it to be the right one. -/
structure Fingerprint where
  brand : String
  product : String
  device : String
  version : String
  id : String
  number : String
  variant : String
  tags : String
  brand_noSlash : '/' ∉ brand.toList
  product_noSlash : '/' ∉ product.toList
  device_noColon : ':' ∉ device.toList
  version_noSlash : '/' ∉ version.toList
  id_noSlash : '/' ∉ id.toList
  number_noColon : ':' ∉ number.toList
  variant_noSlash : '/' ∉ variant.toList

def Fingerprint.text (fingerprint : Fingerprint) : String :=
  fingerprint.brand ++ "/" ++ fingerprint.product ++ "/" ++ fingerprint.device ++ ":" ++
    fingerprint.version ++ "/" ++ fingerprint.id ++ "/" ++ fingerprint.number ++ ":" ++
    fingerprint.variant ++ "/" ++ fingerprint.tags

def Fingerprint.description (fingerprint : Fingerprint) : String :=
  fingerprint.product ++ "-" ++ fingerprint.variant ++ " " ++ fingerprint.version ++ " " ++
    fingerprint.id ++ " " ++ fingerprint.number ++ " " ++ fingerprint.tags

theorem fingerprintToDescription_text (fingerprint : Fingerprint) :
    fingerprintToDescription fingerprint.text = some fingerprint.description := by
  have hslash : "/".toList = ['/'] := by decide
  have hcolon : ":".toList = [':'] := by decide
  unfold fingerprintToDescription Fingerprint.text
  simp only [String.append_assoc]
  rw [findAndRemove_append_bind hslash fingerprint.brand_noSlash,
    findAndRemove_append_bind hslash fingerprint.product_noSlash,
    findAndRemove_append_bind hcolon fingerprint.device_noColon,
    findAndRemove_append_bind hslash fingerprint.version_noSlash,
    findAndRemove_append_bind hslash fingerprint.id_noSlash,
    findAndRemove_append_bind hcolon fingerprint.number_noColon,
    findAndRemove_append_bind hslash fingerprint.variant_noSlash]
  simp only [appendString, Fingerprint.description, String.append_assoc, Option.pure_def]

/-- Seven cuts, none of which can fail. -/
theorem fingerprintToDescription_isSome (fingerprint : String) :
    (fingerprintToDescription fingerprint).isSome = true := by
  unfold fingerprintToDescription
  apply findAndRemove_bind_isSome
  rintro ⟨brand, copy⟩
  apply findAndRemove_bind_isSome
  rintro ⟨product, copy⟩
  apply findAndRemove_bind_isSome
  rintro ⟨device, copy⟩
  apply findAndRemove_bind_isSome
  rintro ⟨platformVersion, copy⟩
  apply findAndRemove_bind_isSome
  rintro ⟨buildId, copy⟩
  apply findAndRemove_bind_isSome
  rintro ⟨buildNumber, copy⟩
  apply findAndRemove_bind_isSome
  rintro ⟨buildVariant, buildVersionTags⟩
  rfl

/-- Every fingerprint of eight pieces is described by five of them, and no string at all
makes `substr` or `erase` throw. -/
theorem fingerprint_to_description_correct :
    (∀ fingerprint : Fingerprint,
      fingerprintToDescription fingerprint.text = some fingerprint.description) ∧
      ∀ fingerprint : String, (fingerprintToDescription fingerprint).isSome = true :=
  ⟨fingerprintToDescription_text, fingerprintToDescription_isSome⟩

/-- Without delimiters each cut copies the whole string and removes nothing. -/
example : fingerprintToDescription "user" = some "user-user user user user user" := by decide

end Camellia.Libinit
