import Coherence.Error
import Coherence.Json.Raw
import Coherence.Json.Writer

set_option autoImplicit false

namespace Coherence

inductive Election where
  | lowestNodeId
  | membershipService
deriving DecidableEq

namespace Election

def name : Election → String
  | lowestNodeId => "lowest-node-id"
  | membershipService => "membership-service"

def ofName? (text : String) : Option Election := [lowestNodeId, membershipService].find? (·.name = text)

end Election

structure Config where
  channel : Channel := "cache-invalidation"
  election : Election := .lowestNodeId
deriving DecidableEq

namespace Config

def fieldNames : List String := ["channel_name", "primary_election"]

def validate (config : Config) : Except Error Unit :=
  if Text.allBlank config.channel then .error (.config .blankChannel) else .ok ()

def toJson (config : Config) : Json :=
  .object [("channel_name", .string config.channel), ("primary_election", .string config.election.name)]

def ofRaw? (raw : Json.Raw) : Option Config :=
  match raw.record? fieldNames with
  | some [channel, election] => do
      let channel ← match channel with
        | some value => value.text?
        | none => some ({} : Config).channel
      let election ← match election with
        | some value => value.variant?.bind Election.ofName?
        | none => some ({} : Config).election
      some { channel, election }
  | _ => none

end Config

end Coherence
