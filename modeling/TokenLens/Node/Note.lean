import TokenLens.Node.Query

/-!
# Notes

What is worth knowing about a conversation with a node besides its outcome: probes that led nowhere,
links that were followed, contracts that could not be read, and where a walk was cut short.
-/

namespace TokenLens

/-- How much attention a note asks for. -/
inductive NoteLevel where
  | debug
  | warning
deriving DecidableEq, Repr

/-- The part of the work that a note is about. -/
inductive NoteTopic where
  | proxy
  | chain
deriving DecidableEq, Repr

/-- Something noticed on the way to an outcome. -/
inductive Note where
  | codeUnavailable (address : Text) (error : RpcError)
  | probeFailed (probe reason : Text)
  | probeResolved (probe address : Text)
  | boundReached (root : Text) (bound : Int) (target : Text)
  | targetUnavailable (target : Text) (error : RpcError)
  | linkFollowed (source target : Text)

namespace Note

/-- How much attention a note asks for. -/
def level : Note → NoteLevel
  | .codeUnavailable _ _ => .warning
  | .probeFailed _ _ => .debug
  | .probeResolved _ _ => .debug
  | .boundReached _ _ _ => .warning
  | .targetUnavailable _ _ => .warning
  | .linkFollowed _ _ => .debug

/-- The part of the work that a note is about. -/
def topic : Note → NoteTopic
  | .codeUnavailable _ _ => .proxy
  | .probeFailed _ _ => .proxy
  | .probeResolved _ _ => .proxy
  | .boundReached _ _ _ => .chain
  | .targetUnavailable _ _ => .chain
  | .linkFollowed _ _ => .chain

/-- The text of a note. -/
def message : Note → Text
  | .codeUnavailable address error =>
      "Could not fetch bytecode for " ++ address ++ ": " ++ error.message
  | .probeFailed probe reason => "Proxy probe " ++ probe ++ " failed: " ++ reason
  | .probeResolved probe address => "Proxy probe " ++ probe ++ " resolved " ++ address
  | .boundReached root bound target =>
      "Proxy chain from " ++ root ++ " exceeds " ++ toString bound ++
        " contracts; not following " ++ target
  | .targetUnavailable target error =>
      "Failed to fetch bytecode for " ++ target ++ ": " ++ error.message
  | .linkFollowed source target => "Following proxy link " ++ source ++ " -> " ++ target

end Note

end TokenLens
