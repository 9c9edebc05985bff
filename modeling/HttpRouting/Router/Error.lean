/-!
# 組み立ての誤り

router の木を組み立てるとき、また server を作るときの誤り。経路が見つからないことや
method が許されないことは誤りではなく、応答（404、405）として表す。
-/

namespace HttpRouting

/-- router の組み立てと server の起動の誤り。 -/
inductive Error where
  /-- 根の router に経路の接頭辞がない。 -/
  | missingPathPrefix
  /-- 根の router に応答への変換がない。 -/
  | missingConversion
  /-- 文書の設定に欠けた項目がある。 -/
  | missingDocField (field : String)
  /-- 経路の説明を作れなかった。経路は登録されない。 -/
  | documentation (method path reason : String)
  /-- server を作った後に経路を登録しようとした。 -/
  | frozen (method path : String)
  /-- この router からはすでに server を作った。 -/
  | alreadyBuilt
  /-- 待ち受けの番地として読めない。 -/
  | invalidAddress (address : String)
  /-- 入出力の誤り。 -/
  | io (reason : String)
  deriving DecidableEq, Repr

namespace Error

/-- 誤りの種類の名前。 -/
def kind : Error → String
  | .missingPathPrefix => "MissingPathPrefix"
  | .missingConversion => "MissingConversion"
  | .missingDocField _ => "MissingDocField"
  | .documentation .. => "Documentation"
  | .frozen .. => "Frozen"
  | .alreadyBuilt => "AlreadyBuilt"
  | .invalidAddress _ => "InvalidAddress"
  | .io _ => "Io"

/-- 誤りの文。 -/
def message : Error → String
  | .missingPathPrefix => "router config: path prefix required"
  | .missingConversion => "router config: missing generic-to-http conversion"
  | .missingDocField f => s!"doc config: {f} required"
  | .documentation m p r => s!"documenting {m} {p}: {r}"
  | .frozen m p => s!"router is frozen: {m} {p} registered after the server was built"
  | .alreadyBuilt => "server already built from this router"
  | .invalidAddress a => "invalid listen address " ++ "`" ++ a ++ "`"
  | .io r => s!"io: {r}"

end Error

end HttpRouting
