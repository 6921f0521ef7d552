import Highlight.Grammar.Basic
import Highlight.Registry.Retry
import Highlight.Toml.Reader

/-!
# Settings

The settings of highlighting, read from a TOML document.  Every key is optional, and no others are
allowed; what is read must also make sense.
-/

namespace Highlight

/-- The settings of highlighting. -/
structure Settings where
  /-- The node type of code blocks. -/
  codeBlockType : String := "code_block"
  /-- The wait before the first pass after mounting, in milliseconds. -/
  deferDelay : Nat := 10
  /-- The bounds on the tokens of a region. -/
  limits : Limits := {}
  /-- How failed loads are retried. -/
  retry : RetryPolicy := {}
  deriving DecidableEq, Repr

/-- Why settings make no sense. -/
inductive InvalidSettings where
  | emptyBlockType
  | noTokens
  | noAttempts
  | baseExceedsMax
  deriving DecidableEq, Repr

def InvalidSettings.reason : InvalidSettings → String
  | emptyBlockType => "code_block_type must not be empty"
  | noTokens => "max_tokens_per_region must be positive"
  | noAttempts => "grammar.max_attempts must be positive"
  | baseExceedsMax => "grammar.backoff_base_ms exceeds grammar.backoff_max_ms"

/-- Why there are no settings. -/
inductive SettingsError where
  /-- There is no such file. -/
  | missingFile
  /-- The file is no text. -/
  | notText
  /-- The text is no TOML document, or has other keys or values than settings have. -/
  | unreadable
  | invalid (why : InvalidSettings)
  deriving DecidableEq, Repr

def SettingsError.message : SettingsError → String
  | missingFile => "settings file not found"
  | notText => "settings file is not valid text"
  | unreadable => "settings cannot be read"
  | invalid why => "invalid configuration: " ++ why.reason

namespace Settings

open Toml (Value Entries)

def maxWord32 : Nat := 4294967295

def maxWord64 : Nat := 18446744073709551615

def natUpTo (bound : Nat) : Value → Except SettingsError Nat
  | .integer n => if 0 ≤ n && n ≤ bound then .ok n.toNat else .error .unreadable
  | _ => .error .unreadable

def textOf : Value → Except SettingsError String
  | .text s => .ok s
  | _ => .error .unreadable

def setRetry (p : RetryPolicy) (key : String) (v : Value) : Except SettingsError RetryPolicy :=
  match key with
  | "max_attempts" => do return { p with maxAttempts := ← natUpTo maxWord32 v }
  | "backoff_base_ms" => do return { p with backoffBase := ← natUpTo maxWord64 v }
  | "backoff_max_ms" => do return { p with backoffMax := ← natUpTo maxWord64 v }
  | _ => .error .unreadable

/-- The keys of the retry policy in the order in which a list gives their values. -/
def retryKeys : List String := ["max_attempts", "backoff_base_ms", "backoff_max_ms"]

/-- The retry policy that a table or a list of values gives; what is not given stays as it is, and
values that a list has besides are not looked at. -/
def retryOf (p : RetryPolicy) : Value → Except SettingsError RetryPolicy
  | .table _ es => es.foldlM (fun p e => setRetry p e.1 e.2) p
  | .list _ vs => (retryKeys.zip vs).foldlM (fun p e => setRetry p e.1 e.2) p
  | _ => .error .unreadable

def set (s : Settings) (key : String) (v : Value) : Except SettingsError Settings :=
  match key with
  | "code_block_type" => do return { s with codeBlockType := ← textOf v }
  | "defer_delay_ms" => do return { s with deferDelay := ← natUpTo maxWord64 v }
  | "max_tokens_per_region" => do
      return { s with limits := { s.limits with maxTokens := ← natUpTo maxWord64 v } }
  | "max_nesting_depth" => do
      return { s with limits := { s.limits with maxDepth := ← natUpTo maxWord64 v } }
  | "grammar" => do return { s with retry := ← retryOf s.retry v }
  | _ => .error .unreadable

/-- The settings that the entries of a document give. -/
def ofEntries (es : Entries) : Except SettingsError Settings :=
  es.foldlM (fun s e => set s e.1 e.2) {}

/-- What is wrong with settings, if anything; of several faults the first in this order. -/
def fault? (s : Settings) : Option InvalidSettings :=
  if s.codeBlockType.isEmpty then some .emptyBlockType
  else if s.limits.maxTokens = 0 then some .noTokens
  else if s.retry.maxAttempts = 0 then some .noAttempts
  else if s.retry.backoffMax < s.retry.backoffBase then some .baseExceedsMax
  else none

/-- Lets settings pass that make sense. -/
def validate (s : Settings) : Except SettingsError Settings :=
  match s.fault? with
  | some why => .error (.invalid why)
  | none => .ok s

def ofToml (text : String) : Except SettingsError Settings :=
  match Toml.ofString text with
  | .error _ => .error .unreadable
  | .ok es =>
      match ofEntries es with
      | .error e => .error e
      | .ok s => s.validate

/-- The settings that the bytes of a file give, if there is one. -/
def ofFile? : Option ByteArray → Except SettingsError Settings
  | none => .error .missingFile
  | some bytes =>
      match String.fromUTF8? bytes with
      | none => .error .notText
      | some text => ofToml text

end Settings

end Highlight
