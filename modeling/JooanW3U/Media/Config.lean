import Mathlib.Data.List.Infix
import JooanW3U.Library.Json
import JooanW3U.Media.CText

/-!
Owns the configuration of the media service: the settings table, the checks every
configuration passes, the text of its file, and the patch of a client.

Does not own reading the file or getting it onto the disk.
-/

namespace JooanW3U.Media

open JooanW3U.Library

/-! ## Settings -/

inductive TextSetting
  | bind
  | username
  | password
  | realm
  | backend
  | libimp
  | input0
  | input1
  | input2
  | input3
  | state_dir
  | record_dir
  | tls_cert
  | tls_key
  | ntp_server
  deriving Repr, DecidableEq

inductive NumberSetting
  | http_port
  | rtsp_port
  | max_clients
  | fps
  | bitrate
  | width
  | height
  | sub_width
  | width1
  | height1
  | bitrate1
  | sub_bitrate
  | gop_frames
  | sub_height
  | sensors
  | flip0
  | flip1
  | record_seconds
  | record_max_mb
  | discovery_port
  deriving Repr, DecidableEq

inductive FlagSetting
  | audio
  | recording
  | allow_plain_http
  | discovery
  | watchdog
  | onvif_nudge
  | main_only
  | motor_home
  deriving Repr, DecidableEq

inductive Setting
  | text (setting : TextSetting)
  | number (setting : NumberSetting)
  | flag (setting : FlagSetting)
  deriving Repr, DecidableEq

/-- The table of `config.c`, in its order. -/
def settings : List Setting :=
  [.text .bind, .text .username, .text .password, .text .realm, .text .backend, .text .libimp,
    .text .input0, .text .input1, .text .input2, .text .input3, .text .state_dir,
    .text .record_dir, .text .tls_cert, .text .tls_key, .text .ntp_server, .number .http_port,
    .number .rtsp_port, .number .max_clients, .number .fps, .number .bitrate, .number .width,
    .number .height, .number .sub_width, .number .width1, .number .height1, .number .bitrate1,
    .number .sub_bitrate, .number .gop_frames, .number .sub_height, .number .sensors,
    .number .flip0, .number .flip1, .number .record_seconds, .number .record_max_mb, .flag .audio,
    .flag .recording, .flag .allow_plain_http, .flag .discovery, .number .discovery_port,
    .flag .watchdog, .flag .onvif_nudge, .flag .main_only, .flag .motor_home]

def TextSetting.name : TextSetting → String
  | bind => "bind"
  | username => "username"
  | password => "password"
  | realm => "realm"
  | backend => "backend"
  | libimp => "libimp"
  | input0 => "input0"
  | input1 => "input1"
  | input2 => "input2"
  | input3 => "input3"
  | state_dir => "state_dir"
  | record_dir => "record_dir"
  | tls_cert => "tls_cert"
  | tls_key => "tls_key"
  | ntp_server => "ntp_server"

/-- The size of the field, its terminator included. -/
def TextSetting.capacity : TextSetting → Nat
  | bind | realm | ntp_server => 64
  | username => 33
  | password => 129
  | backend => 16
  | libimp | input0 | input1 | input2 | input3 | state_dir | record_dir | tls_cert | tls_key => 512

def NumberSetting.name : NumberSetting → String
  | http_port => "http_port"
  | rtsp_port => "rtsp_port"
  | max_clients => "max_clients"
  | fps => "fps"
  | bitrate => "bitrate"
  | width => "width"
  | height => "height"
  | sub_width => "sub_width"
  | width1 => "width1"
  | height1 => "height1"
  | bitrate1 => "bitrate1"
  | sub_bitrate => "sub_bitrate"
  | gop_frames => "gop_frames"
  | sub_height => "sub_height"
  | sensors => "sensors"
  | flip0 => "flip0"
  | flip1 => "flip1"
  | record_seconds => "record_seconds"
  | record_max_mb => "record_max_mb"
  | discovery_port => "discovery_port"

def FlagSetting.name : FlagSetting → String
  | audio => "audio"
  | recording => "recording"
  | allow_plain_http => "allow_plain_http"
  | discovery => "discovery"
  | watchdog => "watchdog"
  | onvif_nudge => "onvif_nudge"
  | main_only => "main_only"
  | motor_home => "motor_home"

def Setting.name : Setting → List Char
  | text setting => setting.name.toList
  | number setting => setting.name.toList
  | flag setting => setting.name.toList

def find_setting (name : List Char) : Option Setting :=
  settings.find? fun setting => setting.name = name

/-- `jipc_config`; `path` is `config_path`. -/
structure Config where
  path : List Char
  text : TextSetting → List Char
  number : NumberSetting → Nat
  flag : FlagSetting → Bool

def Config.setText (setting : TextSetting) (value : List Char) (c : Config) : Config :=
  { c with text := Function.update c.text setting value }

def Config.setNumber (setting : NumberSetting) (value : Nat) (c : Config) : Config :=
  { c with number := Function.update c.number setting value }

def Config.setFlag (setting : FlagSetting) (value : Bool) (c : Config) : Config :=
  { c with flag := Function.update c.flag setting value }

/-! ## Checks -/

namespace Config

def printable (quoted : Bool) (text : List Char) : Bool :=
  text.all fun c =>
    !(c.toNat < 32 || c.toNat = 127 || (quoted && (c = '"' || c = '\\')))

/-- The parts of an IPv4 address in dotted decimal (`inet_pton`). -/
def inet_pton (text : List Char) : Option (List Nat) :=
  let parts := text.splitOn '.'
  let part (digits : List Char) : Bool :=
    1 ≤ digits.length && digits.length ≤ 3 && digits.all Char.isDigit &&
      (digits.length = 1 || digits.head? ≠ some '0') && digitsValue digits ≤ 255
  if parts.length = 4 ∧ parts.all part = true then some (parts.map digitsValue) else none

/-- `jipc_ntp_server` accepts an address, with a port or not. -/
def ntp_server (text : List Char) : Bool :=
  let host := text.takeWhile (· ≠ ':')
  let colon := text.dropWhile (· ≠ ':')
  let number := colon.drop 1
  let portValid :=
    colon = [] || (number ≠ [] && number.all Char.isDigit && 0 < digitsValue number &&
      digitsValue number ≤ 65535)
  host ≠ [] && host.length < 16 && portValid &&
    (inet_pton host).any fun parts => parts ≠ [0, 0, 0, 0]

/-- Settings with a valid text have no margin of white space. -/
def margins (text : List Char) : Bool :=
  text.head?.any isSpace || text.getLast?.any isSpace

variable (c : Config)

/-- `jipc_video_width` of the second sensor's main stream. -/
def width2 : Nat :=
  if c.number .width1 ≠ 0 then c.number .width1 else c.number .width

def height2 : Nat :=
  if c.number .height1 ≠ 0 then c.number .height1 else c.number .height

def native_invalid : Option String :=
  if c.flag .main_only = true then
    if c.number .sensors ≠ 2 ∨ c.number .width > 1920 ∨ c.number .height > 1080 ∨
        c.width2 > 1024 ∨ c.height2 > 576 then
      some "main_only requires two sensors, primary up to 1920x1080 and fixed view up to 1024x576"
    else none
  else if c.number .width > 1280 ∨ c.number .height > 720 ∨
      (c.number .sensors = 2 ∧ (c.number .width ≠ c.width2 ∨ c.number .height ≠ c.height2)) then
    some "independent native streams require matching main dimensions up to 1280x720"
  else none

def even (value : Nat) : Bool := value % 2 = 0

/-- The checks of the addresses, the sign-in and the servers. -/
def access_invalid : Option String :=
  let address := inet_pton (c.text .bind)
  if c.text .username = [] ∨ ':' ∈ c.text .username ∨ printable true (c.text .username) = false ∨
      c.text .password = [] ∨ printable false (c.text .password) = false then
    some "set a nonempty printable username/password in the private configuration"
  else if c.text .realm = [] ∨ printable true (c.text .realm) = false then
    some "invalid authentication realm"
  else if address = none ∨ c.number .http_port = 0 ∨ c.number .http_port > 65535 ∨
      c.number .rtsp_port = 0 ∨ c.number .rtsp_port > 65535 ∨
      c.number .http_port = c.number .rtsp_port then
    some "bind must be an IPv4 address with distinct valid server ports"
  else if (c.text .tls_cert ≠ []) ≠ (c.text .tls_key ≠ []) then
    some "TLS requires both certificate and private key"
  else if c.text .ntp_server ≠ [] ∧ ntp_server (c.text .ntp_server) = false then
    some "ntp_server must be an IPv4 address with an optional :port"
  else if c.text .tls_cert = [] ∧ c.flag .allow_plain_http = false ∧
      address.any (fun parts => parts.head? ≠ some 127) = true then
    some "LAN HTTP requires TLS or explicit allow_plain_http=1"
  else none

/-- The checks of the video settings. -/
def video_invalid (native : Bool) : Option String :=
  let n := c.number
  if n .sensors < 1 ∨ n .sensors > 2 ∨ n .max_clients < 1 ∨ n .max_clients > 8 ∨ n .fps < 1 ∨
      n .fps > 30 ∨ n .bitrate < 64 ∨ n .bitrate > 8192 then
    some "invalid sensors, clients, frame rate or bitrate"
  else if n .flip0 > 3 ∨ n .flip1 > 3 then some "sensor flips require bitmasks 0..3"
  else if c.flag .main_only = true ∧ n .sensors ≠ 2 then some "main_only requires two sensors"
  else if n .width < 160 ∨ n .width > 4096 ∨ n .height < 120 ∨ n .height > 2160 ∨
      even (n .width) = false ∨ even (n .height) = false ∨ n .sub_width < 160 ∨
      n .sub_width > n .width ∨ n .sub_height < 120 ∨ n .sub_height > n .height ∨
      even (n .sub_width) = false ∨ even (n .sub_height) = false then
    some "invalid even video dimensions"
  else if (n .width1 ≠ 0) ≠ (n .height1 ≠ 0) ∨
      (n .width1 ≠ 0 ∧ (n .width1 < n .sub_width ∨ n .width1 > 4096 ∨ even (n .width1) = false ∨
        n .height1 < n .sub_height ∨ n .height1 > 2160 ∨ even (n .height1) = false)) ∨
      (n .bitrate1 ≠ 0 ∧ (n .bitrate1 < 64 ∨ n .bitrate1 > 8192)) ∨
      (n .sub_bitrate ≠ 0 ∧ (n .sub_bitrate < 64 ∨ n .sub_bitrate > 8192)) ∨
      n .gop_frames > 300 then
    some "invalid secondary sensor geometry, bitrate or GOP"
  else if c.text .backend = "imp".toList ∧ native = true then c.native_invalid
  else none

/-- The checks of the recording, the directories and the backend's files. -/
def storage_invalid : Option String :=
  if c.number .record_seconds < 1 ∨ c.number .record_seconds > 3600 ∨
      c.number .record_max_mb < 1 ∨ c.number .record_max_mb > 4096 then
    some "invalid recording retention or segment duration"
  else if c.number .discovery_port = 0 ∨ c.number .discovery_port > 65535 then
    some "invalid discovery port"
  else if c.text .state_dir = [] ∨ c.text .record_dir = [] ∨
      printable false (c.text .state_dir) = false ∨ printable false (c.text .record_dir) = false then
    some "invalid state/recording directory"
  else if c.text .backend = "replay".toList ∧ c.text .input0 = [] then
    some "replay backend requires input0 Annex-B H.264 file"
  else if c.text .backend = "imp".toList ∧ c.text .libimp = [] then
    some "imp backend requires an explicit compatible external libimp path"
  else if c.flag .watchdog = true ∧ c.text .backend ≠ "imp".toList then
    some "hardware watchdog requires the IMP backend"
  else none

/-- What `jipc_config_validate` refuses a configuration for; `native` is an environment
that asks for the native encoder and its driver. -/
def invalid (native : Bool) : Option String :=
  if settings.any (fun setting =>
      match setting with
      | .text setting => !printable false (c.text setting) || margins (c.text setting)
      | _ => false) = true then
    some "string settings require printable values without leading or trailing whitespace"
  else if c.text .backend ≠ "replay".toList ∧ c.text .backend ≠ "imp".toList then
    some "backend must be replay or imp"
  else ((c.access_invalid.or (c.video_invalid native)).or c.storage_invalid)

/-! ## The file -/

/-- The line of a setting. -/
def line (setting : Setting) : List Char :=
  setting.name ++ '=' ::
    (match setting with
      | .text setting => c.text setting
      | .number setting => Nat.toDigits 10 (c.number setting)
      | .flag setting => if c.flag setting = true then ['1'] else ['0']) ++ ['\n']

/-- The loop of `jipc_config_save` over the settings left, from the text so far. -/
def saveLines : List Setting → List Char → Option (List Char)
  | [], text => some text
  | setting :: rest, text =>
      if 8192 - text.length ≤ (c.line setting).length then none
      else saveLines rest (text ++ c.line setting)

/-- The text `jipc_config_save` gives to the disk. -/
def saveText : Option (List Char) :=
  if c.path = [] then none else c.saveLines settings []

end Config

/-! ## The patch -/

/-- Filesystem roots, listener endpoints, input and plugin paths and the system clock
source are local-administrator settings. -/
def localOnly (name : List Char) : Bool :=
  name = "bind".toList || "port".toList <:+: name || name = "backend".toList ||
    name = "realm".toList || "dir".toList <:+: name || name = "libimp".toList ||
    name = "ntp_server".toList || name = "motor_home".toList || "input".toList.isPrefixOf name ||
    "tls_".toList.isPrefixOf name || name = "allow_plain_http".toList || name = "watchdog".toList

/-- The settings whose change needs no restart. -/
def takesEffect (name : List Char) : Bool :=
  name = "username".toList || name = "password".toList || name = "recording".toList ||
    name = "record_seconds".toList || name = "record_max_mb".toList

/-- A setting with the value of a patch, if it is of the setting's kind. -/
def patchSetting (setting : Setting) (value : Json) (c : Config) : Option Config :=
  match setting, value with
  | .text setting, .string text =>
      if text.length < setting.capacity then some (c.setText setting text) else none
  | .flag setting, .bool value => some (c.setFlag setting value)
  | .number setting, value =>
      (value.toWhole?.filter fun value => 0 ≤ value ∧ value ≤ 4294967295).map fun value =>
        c.setNumber setting value.toNat
  | _, _ => none

/-- The loop of `jipc_config_patch` over the members, and whether one needs a restart. -/
def patchSettings : List (List Char × Json) → Config → Bool → Option (Config × Bool)
  | [], c, restart => some (c, restart)
  | (name, value) :: rest, c, restart =>
      if rest.any (fun member => member.1 = name) = true then none
      else
        match find_setting name with
        | none => none
        | some setting =>
            if localOnly name = true then none
            else
              match patchSetting setting value c with
              | none => none
              | some c => patchSettings rest c (restart || !takesEffect name)

/-- What a patch makes of the configuration, and whether it needs a restart; the error
of a patch that is refused. -/
def patchConfig (native : Bool) (json : List Char) (c : Config) : Except String (Config × Bool) :=
  if 16384 < json.length ∨ "\\u0000".toList <:+: json then .error "invalid JSON configuration patch"
  else
    match Json.parseWhole json with
    | some (.object (member :: members)) =>
        match patchSettings (member :: members) c false with
        | none => .error "unknown, duplicate, invalid or local-only configuration setting"
        | some (next, restart) =>
            match next.invalid native with
            | some error => .error error
            | none => .ok (next, restart)
    | _ => .error "patch must be a nonempty JSON object"

end JooanW3U.Media
