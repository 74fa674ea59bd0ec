import Quorum.Time

set_option autoImplicit false

/-!
# What the probing code writes

`addPeerToProber` and `monitorProbingStatus` write to two sinks: a logger, which is the `zap`
logger `lg` or, when `lg` is `nil`, the package logger `plog`, and the `rttSec` histogram. An
entry keeps what the source passes: the message and structured fields of a `zap` entry, the
format string and operands of a `plog` entry. Nothing is formatted.

Which event an entry reports is read off its message (`Out.event`), and which peer it is tagged
with off its `remote-peer-id` field, the operand of its first `%s`, or its metric label
(`Out.peer`).
-/

namespace Quorum.Rafthttp

/-- The `lg *zap.Logger` argument; `nil` selects the package logger `plog`. -/
inductive Logger
  | zap
  | plog
  deriving DecidableEq, Repr

/-- A field of a structured `zap` entry. -/
inductive Field
  | string (key val : String)
  | duration (key : String) (val : Duration)
  /-- `zap.Error(err)`, under the key `error`; a `nil` error is `none`. -/
  | error (err : Option String)
  deriving DecidableEq, Repr

/-- An operand of a `plog` format string. -/
inductive Arg
  | string (val : String)
  | duration (val : Duration)
  | error (err : Option String)
  deriving DecidableEq, Repr

/-- An entry written to a sink. -/
inductive Out
  /-- `lg.Warn(msg, fields...)`. -/
  | warn (msg : String) (fields : List Field)
  /-- `plog.Warningf(format, args...)`. -/
  | warningf (format : String) (args : List Arg)
  /-- `plog.Errorf(format, args...)`. -/
  | errorf (format : String) (args : List Arg)
  /-- `rttSec.WithLabelValues(label).Observe(rtt.Seconds())`; the conversion to a float of
  seconds is left out. -/
  | observe (label : String) (rtt : Duration)
  deriving DecidableEq, Repr

/-- The events the probing code reports. -/
inductive Event
  | addFailed
  | unhealthy
  | clockDrift
  | rtt
  deriving DecidableEq, Repr

/-- The event an entry reports, read off its message. -/
def Out.event : Out → Option Event
  | .warn msg _ =>
    if msg = "failed to add peer into prober" then some .addFailed
    else if msg = "prober detected unhealthy status" then some .unhealthy
    else if msg = "prober found high clock drift" then some .clockDrift
    else none
  | .warningf format _ =>
    if format = "health check for peer %s could not connect: %v" then some .unhealthy
    else if format = "the clock difference against peer %s is too high [%v > %v]" then
      some .clockDrift
    else none
  | .errorf format _ => if format = "failed to add peer %s into prober" then some .addFailed else none
  | .observe _ _ => some .rtt

/-- The peer id a `zap` entry is tagged with. -/
def Field.peer : Field → Option String
  | .string key val => if key = "remote-peer-id" then some val else none
  | _ => none

/-- The peer an entry is tagged with. -/
def Out.peer : Out → Option String
  | .warn _ fields => fields.findSome? Field.peer
  | .warningf _ (.string id :: _) => some id
  | .errorf _ (.string id :: _) => some id
  | .observe label _ => some label
  | _ => none

end Quorum.Rafthttp
