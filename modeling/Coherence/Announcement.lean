import Std.Data.ExtTreeSet
import Coherence.Error
import Coherence.Json.Raw
import Coherence.Json.Writer

set_option autoImplicit false

namespace Coherence

open Std

structure Announcement where
  owner : NodeId
  groups : ExtTreeSet Group

namespace Announcement

def toJson (announcement : Announcement) : Json :=
  .object [("owner", .string announcement.owner), ("groups", Json.strings announcement.groups.toList)]

def encode (announcement : Announcement) : Bytes := Bytes.ofText announcement.toJson.text

def ofRaw? (raw : Json.Raw) : Option Announcement :=
  match raw.record? ["owner", "groups"] with
  | some [some owner, some groups] => do
      let owner ← owner.text?
      let groups ← groups.texts?
      some ⟨owner, ExtTreeSet.ofList groups⟩
  | _ => none

-- The key is judged first, then the bytes, then the owner they name.
def decode (key : String) (bytes : Bytes) : Except Error Announcement :=
  match NodeId.ofKey? key with
  | none => .error (.malformed key .invalidKey)
  | some node =>
      match (Json.Raw.ofBytes? bytes).bind ofRaw? with
      | none => .error (.malformed key .unreadable)
      | some announcement =>
          if announcement.owner = node then .ok announcement
          else .error (.malformed key (.foreignOwner announcement.owner))

end Announcement

end Coherence
