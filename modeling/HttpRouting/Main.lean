import HttpRouting.Example.Program

/-!
# 名簿のサービスの入口

`Directory.program` を動かし、その終了コードで終わる。待ち受けを始めた番地を標準エラーに書く。
-/

def main : IO UInt32 :=
  HttpRouting.Directory.program fun _ => IO.eprintln "directory listening"
