/-
Settings of a session. Both ends of a connection must use the same initial
window; it is never negotiated. `Settings` is what a user writes down, every
key optional; `resolve` fills in the defaults and checks the result.

The checks run in a fixed order and the first that fails is reported.
-/
import StreamMux.Window

namespace StreamMux

/-- The settings a session runs with. -/
structure Config where
  /-- Credit every new stream starts with, in each direction. -/
  initialWindow : UInt32
  /-- Most bytes one DATA frame may carry. -/
  maxFramePayload : UInt32
  /-- Share of the initial window, in percent, that has to be read before
  credit goes back. -/
  windowUpdatePercent : UInt8
  /-- Streams that may wait to be accepted before further ones are refused. -/
  acceptBacklog : Nat
deriving DecidableEq, Repr

inductive ConfigError
  /-- The settings document is not valid, or holds something else than settings. -/
  | document
  /-- The setting of this name is zero. -/
  | zero (setting : String)
  | payloadExceedsWindow (payload window : UInt32)
  | percent (value : UInt8)
deriving DecidableEq, Repr

namespace ConfigError

/-- The text of the error. For a faulty document it is cut after the part that
does not depend on the fault. -/
def message : ConfigError → String
  | document => "invalid config TOML"
  | zero setting => s!"{setting} must be greater than zero"
  | payloadExceedsWindow payload window =>
    s!"max_frame_payload ({payload}) exceeds initial_window ({window})"
  | percent value => s!"window_update_percent must be within 1..=100, got {value}"

end ConfigError

namespace Config

def default : Config := ⟨256 * 1024, 16 * 1024, 25, 128⟩

instance : Inhabited Config := ⟨default⟩

def validate (c : Config) : Except ConfigError Unit :=
  if c.initialWindow = 0 then .error (.zero "initial_window")
  else if c.maxFramePayload = 0 then .error (.zero "max_frame_payload")
  else if c.acceptBacklog = 0 then .error (.zero "accept_backlog")
  else if c.maxFramePayload > c.initialWindow then
    .error (.payloadExceedsWindow c.maxFramePayload c.initialWindow)
  else if c.windowUpdatePercent < 1 ∨ c.windowUpdatePercent > 100 then
    .error (.percent c.windowUpdatePercent)
  else .ok ()

/-- Bytes read that make a receiver return credit. -/
def threshold (c : Config) : UInt32 := updateThreshold c.initialWindow c.windowUpdatePercent

/-- The settings pass every check. -/
def Valid (c : Config) : Prop :=
  c.initialWindow ≠ 0 ∧ c.maxFramePayload ≠ 0 ∧ c.acceptBacklog ≠ 0 ∧
    c.maxFramePayload ≤ c.initialWindow ∧ 1 ≤ c.windowUpdatePercent ∧ c.windowUpdatePercent ≤ 100

instance (c : Config) : Decidable c.Valid := inferInstanceAs (Decidable (_ ∧ _ ∧ _ ∧ _ ∧ _ ∧ _))

theorem validate_eq_ok_iff (c : Config) : c.validate = .ok () ↔ c.Valid := by
  have h32 := @UInt32.not_le c.maxFramePayload c.initialWindow
  have low := @UInt8.not_le 1 c.windowUpdatePercent
  have high := @UInt8.not_le c.windowUpdatePercent 100
  unfold validate Valid
  repeat' split
  all_goals grind

end Config

/-- Settings as written down: a key that is missing takes its default. -/
structure Settings where
  initialWindow : Option UInt32
  maxFramePayload : Option UInt32
  windowUpdatePercent : Option UInt8
  acceptBacklog : Option Nat
deriving DecidableEq, Repr

namespace Settings

def empty : Settings := ⟨none, none, none, none⟩

/-- The settings with defaults filled in, not checked. -/
def fill (s : Settings) : Config where
  initialWindow := s.initialWindow.getD Config.default.initialWindow
  maxFramePayload := s.maxFramePayload.getD Config.default.maxFramePayload
  windowUpdatePercent := s.windowUpdatePercent.getD Config.default.windowUpdatePercent
  acceptBacklog := s.acceptBacklog.getD Config.default.acceptBacklog

def resolve (s : Settings) : Except ConfigError Config :=
  match s.fill.validate with
  | .ok () => .ok s.fill
  | .error e => .error e

end Settings
end StreamMux
