import Vtest.Model.BusyWait
import Vtest.Model.Transfer

/-! # The replies of the query commands

`PING_PROTOCOL_VERSION`, `PROTOCOL_VERSION`, `GET_PARAM`, `GET_CAPSET`, `GET_CAPS`,
`GET_CAPS2` and `RESOURCE_BUSY_WAIT` answer with a header `(len_dw, cmd_id)` and a
payload. A reply is modelled as its `len_dw` word and the bytes after the header (the
`cmd_id` words' `VCMD_*` values are in `vtest_protocol.h`, which is not among the
sources). Words go over the socket low byte first. Each handler returns its return
value and the reply, when every `vtest_block_write` of it succeeded (`writeOk`). -/

namespace Vtest

/-- A reply: its header's `len_dw` word, and the bytes that follow the header. -/
structure Reply where
  lengthDw : ℕ
  payload : List ℕ
deriving Repr, DecidableEq

/-- Modelled from the spec: the ping reply is a header only, `VCMD_PING_PROTOCOL_VERSION_SIZE`. -/
def vcmdPingProtocolVersionSize : ℕ := 0

/-- Modelled from the spec: the version reply is one word, `VCMD_PROTOCOL_VERSION_SIZE`. -/
def vcmdProtocolVersionSize : ℕ := 1

/-- `vtest_ping_protocol_version`. -/
def vtestPingProtocolVersion (writeOk : Bool) : ℤ × Option Reply :=
  if writeOk then (0, some ⟨vcmdPingProtocolVersionSize, []⟩) else (-eio, none)

/-- The reply `vtest_protocol_version` writes for the version word `vtestProtocolVersion`
returns: the header, then `version_buf`. -/
def protocolVersionReply (version : Option ℕ) : Option Reply :=
  version.map fun v => ⟨vcmdProtocolVersionSize, wordBytes v⟩

/-- `vtest_get_param` once `get_param_buf` is read (`readOk`): whether `param` is
`VCMD_PARAM_MAX_SYNC_QUEUE_COUNT` (its value is not among the sources), and whether
`VIRGL_DISABLE_MT` is set, in a build with eventfd. -/
def vtestGetParam (isMaxSyncQueueCount disableMt readOk writeOk : Bool) : ℤ × Option Reply :=
  if !readOk then (-1, none)
  else
    let resp := if isMaxSyncQueueCount then [1, if disableMt then 0 else vtestMaxSyncQueueCount]
      else [0, 0]
    if writeOk then (0, some ⟨2, wordsBytes resp⟩) else (-1, none)

/-- What the rendering library answers for a capset: `virgl_renderer_get_cap_set`'s
`max_version` and `max_size` (both `uint32_t`), and the buffer `virgl_renderer_fill_caps`
leaves. -/
structure CapsetInfo where
  maxVersion : ℕ
  maxSize : ℕ
  caps : ℕ → ℕ
  maxSize_lt : maxSize < 2 ^ 32

/-- `vtest_get_capset` once `get_capset_buf` is read (`readOk`), for the requested
`version`. An unsupported capset is answered with a one-word "no" and the handler returns
`vtest_block_write`'s value, the size it wrote. -/
def vtestGetCapset (version : ℕ) (info : CapsetInfo) (readOk mallocOk writeOk : Bool) :
    ℤ × Option Reply :=
  if !readOk then (-1, none)
  else if (info.maxVersion = 0 ∧ info.maxSize = 0) ∨ info.maxVersion < version then
    if writeOk then (12, some ⟨1, wordBytes 0⟩) else (-eio, none)
  else if info.maxSize % 4 ≠ 0 then (-einval, none)
  else if !mallocOk then (-enomem, none)
  else if writeOk then
    (0, some ⟨1 + info.maxSize / 4, wordBytes 1 ++ loadBytes info.caps info.maxSize⟩)
  else (-eio, none)

/-- What `vtest_send_caps` and `vtest_send_caps2` share once they hold the library's
answer for their capset (1 or 2): the header is `(max_size + 1, capset)`, then `max_size`
bytes of caps, and a failed write is not reported. -/
def sendCapsWith (info : CapsetInfo) (mallocOk writeOk : Bool) : ℤ × Option Reply :=
  if !mallocOk then (-1, none)
  else (0, if writeOk then some ⟨u32 (info.maxSize + 1), loadBytes info.caps info.maxSize⟩ else none)

/-- `vtest_send_caps`, for `GET_CAPS`, with the answer for capset 1. -/
def vtestSendCaps (info : CapsetInfo) (mallocOk writeOk : Bool) : ℤ × Option Reply :=
  sendCapsWith info mallocOk writeOk

/-- `vtest_send_caps2`, for `GET_CAPS2`, with the answer for capset 2: an empty capset is
refused. -/
def vtestSendCaps2 (info : CapsetInfo) (mallocOk writeOk : Bool) : ℤ × Option Reply :=
  if info.maxSize = 0 then (-1, none) else sendCapsWith info mallocOk writeOk

/-- The reply `vtest_resource_busy_wait` writes for its `busy` word (the header, then
`reply_buf`), and `vtest_resource_busy_wait_nop` (one buffer of the same words). -/
def busyWaitReply (busy : Option ℕ) : Option Reply :=
  busy.map fun b => ⟨1, wordBytes b⟩

end Vtest
