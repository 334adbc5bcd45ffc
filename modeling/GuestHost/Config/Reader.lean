import GuestHost.Config.Basic
import GuestHost.Json.Record

/-! Configurations read from JSON text and from files. -/
namespace GuestHost.Config

open Json

def Display.schema : Schema Display where
  title := "struct DisplayConfig"
  fields := [
    .of "width" readWord fun v d => { d with width := v },
    .of "height" readWord fun v d => { d with height := v }]
  initial := {}

def AddressSpace.schema : Schema AddressSpace where
  title := "struct MemoryConfig"
  fields := [
    .of "address_space" readWord fun v m => { m with size := v },
    .of "reserved_header" readWord fun v m => { m with reservedHeader := v }]
  initial := {}

def Audio.schema : Schema Audio where
  title := "struct AudioConfig"
  fields := [
    .of "chunk_frames" readWord fun v a => { a with chunkFrames := v },
    .of "sample_rate" readWord fun v a => { a with sampleRate := v }]
  initial := {}

def Hotkeys.schema : Schema Hotkeys where
  title := "struct Hotkeys"
  fields := [
    .of "save" readOptionalWord fun v h => { h with save := v },
    .of "restore" readOptionalWord fun v h => { h with restore := v },
    .of "reset" readOptionalWord fun v h => { h with reset := v }]
  initial := {}

def schema : Schema Config where
  title := "struct BridgeConfig"
  fields := [
    .of "display" Display.schema.read fun v c => { c with display := v },
    .of "memory" AddressSpace.schema.read fun v c => { c with memory := v },
    .of "audio" Audio.schema.read fun v c => { c with audio := v },
    .of "hotkeys" Hotkeys.schema.read fun v c => { c with hotkeys := v }]
  initial := {}

/-- Why a file gives no text. -/
inductive FileFault where
  | notFound
  | notText
  deriving DecidableEq

def FileFault.message : FileFault → String
  | .notFound => "no such file"
  | .notText => "stream did not contain valid UTF-8"

inductive Error where
  | file (fault : FileFault)
  | parse (fault : Fault)
  | invalid (reason : String)
  deriving DecidableEq

def Error.message : Error → String
  | .file fault => "failed to read config: " ++ fault.message
  | .parse fault => "failed to parse config: " ++ fault.message
  | .invalid reason => "invalid config: " ++ reason

def validate (c : Config) : Except Error Unit :=
  match c.defect? with
  | some d => .error (.invalid d.message)
  | none => .ok ()

/-- Reads the fields without checking them against each other. -/
def read (text : String) : Except Error Config :=
  match schema.readText text with
  | .error f => .error (.parse f)
  | .ok c => .ok c

def parse (text : String) : Except Error Config := do
  let c ← read text
  c.validate
  return c

/-- Parses the content of a file, which may be missing. -/
def load (content : Option ByteArray) : Except Error Config :=
  match content with
  | none => .error (.file .notFound)
  | some bytes => match String.fromUTF8? bytes with
    | none => .error (.file .notText)
    | some text => parse text

end GuestHost.Config
