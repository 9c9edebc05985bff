import HttpRouting.Example.Directory
import HttpRouting.Server.Listen

/-!
# 名簿のサービスを動かす

`Directory.server` をその番地（`:3000`）で待ち受け、SIGTERM か SIGINT を受けると開いている
つながりを閉じて終わる（終了コード 0）。server を作れない、または番地で待ち受けられないときは、
理由を標準エラーに書いて終了コード 1 で終わる。
-/

namespace HttpRouting.Directory

/-- 名簿のサービスを `stop` が来るまで動かし、終了コードを返す。`announce` は待ち受けを始めた
番地を受け取る。 -/
def run (stop : Std.CancellationToken) (announce : Std.Net.SocketAddress → IO Unit) : IO UInt32 := do
  match server with
  | .error e =>
    IO.eprintln ("Error: " ++ e.message)
    return 1
  | .ok s =>
    match ← Listen.serveUntil s stop announce with
    | .ok () => return 0
    | .error e =>
      IO.eprintln ("Error: " ++ e.message)
      return 1

/-- 名簿のサービスを SIGTERM か SIGINT が来るまで動かし、終了コードを返す。 -/
def program (announce : Std.Net.SocketAddress → IO Unit) : IO UInt32 :=
  Listen.withSignals fun stop => run stop announce

end HttpRouting.Directory
