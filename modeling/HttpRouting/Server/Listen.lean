import HttpRouting.Server.Activity
import HttpRouting.Server.Basic
import HttpRouting.Http.Wire
import Std.Async.TCP
import Std.Async.Signal
import Std.Async.Timer
import Std.Sync.CancellationToken

/-!
# 待ち受け

server を TCP で待ち受け、つながりごとに HTTP/1.1 の要求を読んで答える。

* `Listen.serveWithShutdown` は、与えた socket でつながりを受ける。合図（`signal`）が来ると新しい
  つながりを受けるのをやめ、開いているつながりに閉じるよう頼み、どれも閉じてから終わる。
* `Listen.serveUntil` は server の番地で待ち受け、与えた合図まで答える。番地で待ち受けられなければ
  入出力の誤り（`Error.io`）を返す。誤りの文は OS の説明と誤りの番号（`Listen.osErrorText`）。
  `Listen.serve` は SIGTERM か SIGINT を合図にする（`Listen.withSignals`）。

一つのつながりは一度に一つの要求を処理する。

* 次の要求を待つ間は遊びの確かめをする。活動（`Activity`）の残りの時間だけ待ち、その間に何も
  届かなければ確かめの二つの読みを続けて行い（`Activity.check`）、閉じ始めたら閉じる。
* 要求の頭の最初の byte が届いてから header を読む期限のうちに頭の全部が届かなければ、何も
  送らずに閉じる。
* 要求を処理する間は処理中の数が一つ増え、答えができたら最後の時刻を書いてから数を戻す。
* 閉じるよう頼まれていれば、答えに `connection: close` を付けて閉じる。次の要求を待っている間に
  頼まれれば、すぐ閉じる。

ここは入出力だけを受け持つ。要求の頭を読むこと、経路を選んで答えること、応答を書くことは
`Wire` と `Server` の仕事である。
-/

open Std.Async
open Std.Net

namespace HttpRouting.Listen

/-- 待ち受けの番地を socket の番地にする。 -/
def socketAddress : ListenAddress → Option SocketAddress
  | .v4 [a, b, c, d] p =>
    some (.v4 ⟨IPv4Addr.ofParts a.toUInt8 b.toUInt8 c.toUInt8 d.toUInt8, p.toUInt16⟩)
  | .v6 [a, b, c, d, e, f, g, h] _ p =>
    some (.v6 ⟨IPv6Addr.ofParts a.toUInt16 b.toUInt16 c.toUInt16 d.toUInt16 e.toUInt16 f.toUInt16
      g.toUInt16 h.toUInt16, p.toUInt16⟩)
  | _ => none

/-! ## OS の誤り -/

/-- OS の誤りの番号と説明。 -/
def osError? : IO.Error → Option (UInt32 × String)
  | .alreadyExists _ c d | .otherError c d | .resourceBusy c d | .resourceVanished c d
  | .unsupportedOperation c d | .hardwareFault c d | .unsatisfiedConstraints c d
  | .illegalOperation c d | .protocolError c d | .timeExpired c d | .interrupted _ c d
  | .noFileOrDirectory _ c d | .invalidArgument _ c d | .permissionDenied _ c d
  | .resourceExhausted _ c d | .inappropriateType _ c d | .noSuchThing _ c d => some (c, d)
  | _ => none

/-- 誤りの番号。socket の誤りは errno を負にした数で届く。 -/
def errno (c : UInt32) : Nat :=
  if c.toNat ≥ 2147483648 then 4294967296 - c.toNat else c.toNat

/-- OS の誤りの文: 頭を大文字にした説明の後に、括弧に入れた誤りの番号。 -/
def osErrorText (e : IO.Error) : String :=
  match osError? e with
  | some (c, d) => d.capitalize ++ " (os error " ++ toString (errno c) ++ ")"
  | none => toString e

/-! ## 一つのつながり -/

/-- 待つ間に起こったこと。 -/
inductive Wake where
  | bytes (bs : List UInt8)
  | closed
  | timer
  | stopped

/-- `wait` ミリ秒まで byte を待つ。`stop` があれば、閉じるよう頼まれたときにも起きる。 -/
def waitFor (c : TCP.Socket.Client) (wait : Nat) (stop : Option Std.CancellationToken) : Async Wake := do
  let sleep ← Selector.sleep (Std.Time.Millisecond.Offset.ofNat wait)
  let cases : Array (Selectable Wake) := #[
    .case (c.recvSelector 65536) fun
      | some bytes => pure (if bytes.isEmpty then .closed else .bytes bytes.toList)
      | none => pure .closed,
    .case sleep fun _ => pure .timer]
  match stop with
  | some token => Selectable.one (cases.push (.case token.selector fun _ => pure .stopped))
  | none => Selectable.one cases

/-- 届いた byte を読む。つながりが閉じていれば `none`。 -/
def receive (c : TCP.Socket.Client) : Async (Option (List UInt8)) := do
  match ← c.recv? 65536 with
  | some bytes => pure (if bytes.isEmpty then none else some bytes.toList)
  | none => pure none

/-- `enough` が成り立つまで読み足す。途中でつながりが閉じれば `none`。 -/
partial def fill (c : TCP.Socket.Client) (buf : List UInt8) (enough : List UInt8 → Bool) :
    Async (Option (List UInt8)) := do
  if enough buf then return some buf
  match ← receive c with
  | some more => fill c (buf ++ more) enough
  | none => return none

/-- 本文を読み、本文と残りの byte を返す。 -/
def readBody (c : TCP.Socket.Client) (rest : List UInt8) : Wire.Framing →
    Async (Option (List UInt8 × List UInt8))
  | .none => pure (some ([], rest))
  | .length n => do
    let some buf ← fill c rest (·.length ≥ n) | pure none
    pure (some (buf.take n, buf.drop n))
  | .chunked => do
    let some buf ← fill c rest fun b => (Wire.dechunk (b.length + 1) b).isSome | pure none
    pure (Wire.dechunk (buf.length + 1) buf)

/-- 一つのつながり: 答える server、相手、閉じるよう頼む合図。 -/
structure Connection where
  server : Server
  client : TCP.Socket.Client
  stop : Std.CancellationToken

namespace Connection

/-- 遊んでよい時間。 -/
def idle (k : Connection) : Nat := k.server.timeouts.idleMs

/-- byte を送る。 -/
def send (k : Connection) (bs : List UInt8) : Async Unit := k.client.sendAll #[ByteArray.mk bs.toArray]

/-- 書く側を閉じる。 -/
def close (k : Connection) : Async Unit := k.client.shutdown

mutual

/-- 次の要求を待つ。何も届かないまま遊びと見なす時が来れば確かめ、閉じ始めたら閉じる。 -/
partial def next (k : Connection) (act : Activity) : Async Unit := do
  match ← waitFor k.client (act.untilIdle k.idle (← IO.monoMsNow)) (some k.stop) with
  | .bytes bs => readHead k act bs ((← IO.monoMsNow) + k.server.timeouts.readMs)
  | .closed | .stopped => k.close
  | .timer =>
    let act := act.check k.idle (← IO.monoMsNow)
    if act.closing then k.close else next k act

/-- 要求の頭を時刻 `deadline` まで読む。間に合わなければ何も送らずに閉じる。 -/
partial def readHead (k : Connection) (act : Activity) (buf : List UInt8) (deadline : Nat) :
    Async Unit := do
  match Wire.headEnd 0 buf with
  | some stop => answer k act (buf.take stop) (buf.drop stop)
  | none =>
    let now ← IO.monoMsNow
    if deadline ≤ now then k.close
    else
      match ← waitFor k.client (deadline - now) none with
      | .bytes more => readHead k act (buf ++ more) deadline
      | _ => k.close

/-- 頭を読んだ要求に答え、つながりを保つなら次を待つ。 -/
partial def answer (k : Connection) (act : Activity) (headBytes rest : List UInt8) : Async Unit := do
  match Wire.parseHead headBytes with
  | none => k.send Wire.badRequest; k.close
  | some head =>
    match Wire.framing head with
    | none => k.send Wire.badRequest; k.close
    | some framing =>
      let some (body, rest) ← readBody k.client rest framing
        | k.send (Wire.renderResponse (Response.ofStatus Status.badRequest) false false); k.close
      match Wire.toRequest head body with
      | none => k.send Wire.badRequest; k.close
      | some req =>
        let busy := act.step k.idle .begin
        let res := k.server.handle req
        let act := (busy.step k.idle (.stamp (← IO.monoMsNow))).step k.idle .release
        let close := !Wire.keepAlive head || (← k.stop.isCancelled)
        k.send (Wire.renderResponse res (head.method == "HEAD") close)
        if close then k.close
        else if rest.isEmpty then next k act
        else readHead k act rest ((← IO.monoMsNow) + k.server.timeouts.readMs)

end

/-- つながりを始める。誤りが起きたつながりはそこで終わる。 -/
def run (k : Connection) : Async Unit := do
  try next k (Activity.start (← IO.monoMsNow)) catch _ => pure ()

end Connection

/-! ## 待ち受け -/

/-- つながりを受けては処理を始める。`signal` が来たら受けるのをやめ、まだ終わっていない処理を
返す。 -/
partial def acceptLoop (s : Server) (listener : TCP.Socket.Server) (signal stop : Std.CancellationToken)
    (running : Array (AsyncTask Unit)) : Async (Array (AsyncTask Unit)) := do
  if ← signal.isCancelled then return running
  let running ← running.filterM fun t => return !(← IO.hasFinished t)
  let accepted ← Selectable.one #[
    .case listener.acceptSelector fun c => pure (some c),
    .case signal.selector fun _ => pure none]
  match accepted with
  | some c =>
    let t ← async (Connection.run ⟨s, c, stop⟩)
    acceptLoop s listener signal stop (running.push t)
  | none => return running

/-- `listener` でつながりを受けて答える。`signal` が来たら受けるのをやめ、開いているつながりに
閉じるよう頼み、どれも閉じてから終わる。 -/
def serveWithShutdown (s : Server) (listener : TCP.Socket.Server) (signal : Std.CancellationToken) :
    Async Unit := do
  let stop ← Std.CancellationToken.new
  let running ← acceptLoop s listener signal stop #[]
  stop.cancel
  for t in running do
    await t

/-- server の番地で待ち受け、`stop` が来るまで答える。待ち受けを始めたら、その番地を `announce` に
渡す。番地で待ち受けられなければ入出力の誤り。 -/
def serveUntil (s : Server) (stop : Std.CancellationToken) (announce : SocketAddress → IO Unit) :
    IO (Except Error Unit) := do
  let some addr := socketAddress s.address | return .error (.io "address family not supported")
  let listener ← TCP.Socket.Server.mk
  try
    listener.bind addr
    listener.listen 1024
  catch e =>
    return .error (.io (osErrorText e))
  announce addr
  (serveWithShutdown s listener stop).block
  return .ok ()

/-- SIGTERM か SIGINT が来たら起きる合図を `k` に渡して動かす。 -/
def withSignals (k : Std.CancellationToken → IO α) : IO α := do
  let term ← Signal.Waiter.mk .sigterm false
  let int ← Signal.Waiter.mk .sigint false
  let stop ← Std.CancellationToken.new
  for w in #[term, int] do
    discard <| AsyncTask.mapIO (fun _ => stop.cancel) (← w.wait)
  let a ← k stop
  term.stop
  int.stop
  return a

/-- server の番地で待ち受け、SIGTERM か SIGINT が来るまで答える。 -/
def serve (s : Server) (announce : SocketAddress → IO Unit) : IO (Except Error Unit) :=
  withSignals fun stop => serveUntil s stop announce

end HttpRouting.Listen
