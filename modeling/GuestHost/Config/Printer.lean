import GuestHost.Config.Basic

/-! The compact JSON text of a configuration, with every field in order. -/
namespace GuestHost.Config

def member (name value : String) : String :=
  "\"" ++ name ++ "\":" ++ value

def object (members : List String) : String :=
  "\x7b" ++ ",".intercalate members ++ "\x7d"

def word (v : UInt32) : String :=
  v.toNat.repr

def optionalWord : Option UInt32 → String
  | none => "null"
  | some v => word v

def Display.print (d : Display) : String :=
  object [member "width" (word d.width), member "height" (word d.height)]

def AddressSpace.print (m : AddressSpace) : String :=
  object [member "address_space" (word m.size), member "reserved_header" (word m.reservedHeader)]

def Audio.print (a : Audio) : String :=
  object [member "chunk_frames" (word a.chunkFrames), member "sample_rate" (word a.sampleRate)]

def Hotkeys.print (h : Hotkeys) : String :=
  object [member "save" (optionalWord h.save), member "restore" (optionalWord h.restore),
    member "reset" (optionalWord h.reset)]

def print (c : Config) : String :=
  object [member "display" c.display.print, member "memory" c.memory.print,
    member "audio" c.audio.print, member "hotkeys" c.hotkeys.print]

end GuestHost.Config
