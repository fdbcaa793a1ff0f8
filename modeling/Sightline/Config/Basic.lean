import Sightline.Config.Ini
import Sightline.Decimal.Layout
import Sightline.Link.Parameters
import Sightline.Text.Quoted
import Sightline.Units

/-!
# Configuration

Every setting has a default; an INI text overrides single settings. Settings are read in a fixed
order, and the first bad one is reported.
-/

namespace Sightline

/-- Settings of the request channel. Times are in milliseconds. -/
structure ChannelConfig where
  url : String
  /-- Wait before each further connect attempt. -/
  reconnectDelay : Nat
  /-- Age beyond which an unanswered request is no longer live. -/
  requestTimeout : Option Nat
  deriving DecidableEq, Repr

/-- Settings of a planning session. -/
structure SessionConfig where
  /-- Frequency of new links in gigahertz. -/
  frequency : Float
  zone : Nat
  /-- The unit system of radio heights. -/
  units : UnitSystem
  deriving DecidableEq, Repr

/-- All settings. -/
structure Config where
  channel : ChannelConfig
  session : SessionConfig
  deriving DecidableEq, Repr

def ChannelConfig.initial : ChannelConfig := ⟨"ws://127.0.0.1:8000/ws/", 1000, none⟩

def SessionConfig.initial : SessionConfig := ⟨5, 1, .metric⟩

/-- Why there is no configuration. -/
inductive ConfigFault
  /-- The file is missing or is not UTF-8. -/
  | unreadable
  | notIni
  | badValue (heading key value : String)
  deriving DecidableEq, Repr

def ConfigFault.message : ConfigFault → String
  | .unreadable => "Failed to read config file"
  | .notIni => "Failed to parse config"
  | .badValue heading key value =>
    "Invalid value for " ++ heading ++ "." ++ key ++ ": " ++ Text.quoted value

namespace Config

/-! ### Single settings

A reader answers the setting, or the text that is shown for a bad value. -/

/-- A whole number up to `bound`; blanks around it do not count. -/
def readNat (bound : Nat) (raw : String) : Except String Nat :=
  match Text.natUpTo? bound (Text.trim raw.toList) with
  | some n => .ok n
  | none => .error raw

/-- A frequency: a finite positive number. A number that is neither is shown as it was read. -/
def readFrequency (raw : String) : Except String Float :=
  match Text.float? (Text.trim raw.toList) with
  | some x => if isPositive x then .ok x else .error (Decimal.plain x)
  | none => .error raw

/-- A zone order of 32 bits, at least one. -/
def readZone (raw : String) : Except String Nat :=
  match readNat (UInt32.size - 1) raw with
  | .ok 0 => .error "0"
  | other => other

def readUnits (raw : String) : Except String UnitSystem :=
  match UnitSystem.parse? raw with
  | some u => .ok u
  | none => .error raw

/-- The setting of a key, or its default where the key is absent. -/
def setting {α : Type} (doc : Ini.Document) (name key : String) (initial : α)
    (read : String → Except String α) : Except ConfigFault α :=
  match Ini.value? doc name key with
  | none => .ok initial
  | some raw => (read raw).mapError (.badValue name key)

/-- Times are 64-bit numbers of milliseconds. -/
def timeBound : Nat := UInt64.size - 1

/-- The configuration of an INI document. A timeout of zero means none. -/
def ofDocument (doc : Ini.Document) : Except ConfigFault Config := do
  let channel := ChannelConfig.initial
  let session := SessionConfig.initial
  let url ← setting doc "channel" "url" channel.url fun raw =>
    .ok (String.ofList (Text.trim raw.toList))
  let delay ← setting doc "channel" "reconnect_delay_ms" channel.reconnectDelay (readNat timeBound)
  let timeout ← setting doc "channel" "request_timeout_ms" 0 (readNat timeBound)
  let frequency ← setting doc "session" "frequency_ghz" session.frequency readFrequency
  let zone ← setting doc "session" "fresnel_zone" session.zone readZone
  let units ← setting doc "session" "units" session.units readUnits
  return ⟨⟨url, delay, if timeout = 0 then none else some timeout⟩, ⟨frequency, zone, units⟩⟩

/-- The configuration of an INI text. -/
def parse (text : String) : Except ConfigFault Config :=
  match Ini.parse? text with
  | some doc => ofDocument doc
  | none => .error .notIni

/-- The bytes without a byte order mark in front. -/
def dropMark (bytes : List UInt8) : List UInt8 :=
  if [0xEF, 0xBB, 0xBF].isPrefixOf bytes then bytes.drop 3 else bytes

/-- The configuration of the bytes of a file, which may be missing. -/
def load (bytes : Option (List UInt8)) : Except ConfigFault Config :=
  match bytes.bind fun bs => String.fromUTF8? (ByteArray.mk (dropMark bs).toArray) with
  | some text => parse text
  | none => .error .unreadable

end Config

end Sightline
