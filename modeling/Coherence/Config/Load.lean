import Coherence.Config
import Coherence.Text.Bytes
import Coherence.Toml.Document

set_option autoImplicit false

namespace Coherence

namespace Config

def ofToml? (value : Toml.Value) : Option Config :=
  match value.record? fieldNames with
  | some [channel, election] => do
      let channel ← match channel with
        | some value => value.text?
        | none => some ({} : Config).channel
      let election ← match election with
        | some value => value.variant?.bind Election.ofName?
        | none => some ({} : Config).election
      some { channel, election }
  | _ => none

def ofDocument? (document : Toml.Value) : Option Config :=
  match document.record? ["bridge"] with
  | some [some value] => ofToml? value
  | some [none] => some {}
  | _ => none

def ofTomlText (text : String) : Except Error Config :=
  match (Toml.ofText? text).bind ofDocument? with
  | none => .error (.config .malformed)
  | some config => config.validate.map fun _ => config

end Config

-- A name that holds the null character cannot be looked up at all.
inductive Source where
  | missing
  | directory
  | notDirectory
  | nameTooLong
  | badName
  | file (bytes : Bytes)

namespace Source

def text (source : Source) : Except String String :=
  match source with
  | .missing => .error "No such file or directory (os error 2)"
  | .directory => .error "Is a directory (os error 21)"
  | .notDirectory => .error "Not a directory (os error 20)"
  | .nameTooLong => .error "File name too long (os error 36)"
  | .badName => .error "file name contained an unexpected NUL byte"
  | .file bytes =>
      match bytes.text? with
      | some text => .ok text
      | none => .error "stream did not contain valid UTF-8"

end Source

def Config.load (path : String) (source : Source) : Except Error Config :=
  match source.text with
  | .error cause => .error (.config (.unreadableFile path cause))
  | .ok text => ofTomlText text

end Coherence
