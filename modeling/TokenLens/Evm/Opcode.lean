import TokenLens.Hex

/-!
# Opcodes

The mnemonic of each opcode and the width of the operand that follows it in the code. Only the push
instructions carry an operand: `PUSH1` one byte, `PUSH32` thirty-two.
-/

namespace TokenLens.Opcode

/-- Opcodes without an operand, as runs of consecutive mnemonics after a first opcode. -/
def runs : List (Nat × List String) :=
  [(0x00, ["STOP", "ADD", "MUL", "SUB", "DIV", "SDIV", "MOD", "SMOD", "ADDMOD", "MULMOD", "EXP",
      "SIGNEXTEND"]),
   (0x10, ["LT", "GT", "SLT", "SGT", "EQ", "ISZERO", "AND", "OR", "XOR", "NOT", "BYTE", "SHL",
      "SHR", "SAR"]),
   (0x20, ["SHA3"]),
   (0x30, ["ADDRESS", "BALANCE", "ORIGIN", "CALLER", "CALLVALUE", "CALLDATALOAD", "CALLDATASIZE",
      "CALLDATACOPY", "CODESIZE", "CODECOPY", "GASPRICE", "EXTCODESIZE", "EXTCODECOPY",
      "RETURNDATASIZE", "RETURNDATACOPY", "EXTCODEHASH"]),
   (0x40, ["BLOCKHASH", "COINBASE", "TIMESTAMP", "NUMBER", "PREVRANDAO", "GASLIMIT", "CHAINID",
      "SELFBALANCE", "BASEFEE", "BLOBHASH", "BLOBBASEFEE"]),
   (0x50, ["POP", "MLOAD", "MSTORE", "MSTORE8", "SLOAD", "SSTORE", "JUMP", "JUMPI", "PC", "MSIZE",
      "GAS", "JUMPDEST", "TLOAD", "TSTORE", "MCOPY", "PUSH0"]),
   (0xA0, ["LOG0", "LOG1", "LOG2", "LOG3", "LOG4"]),
   (0xF0, ["CREATE", "CALL", "CALLCODE", "RETURN", "DELEGATECALL", "CREATE2"]),
   (0xFA, ["STATICCALL"]),
   (0xFD, ["REVERT", "INVALID", "SELFDESTRUCT"])]

/-- The width in bytes of the operand that follows an opcode. -/
def operandWidth (opcode : Nat) : Nat :=
  if 0x60 ≤ opcode ∧ opcode ≤ 0x7F then opcode - 0x5F else 0

/-- The mnemonic of an opcode that is in use. -/
def mnemonic? (opcode : Nat) : Option String :=
  if 0x60 ≤ opcode ∧ opcode ≤ 0x7F then some ("PUSH" ++ toString (opcode - 0x5F))
  else if 0x80 ≤ opcode ∧ opcode ≤ 0x8F then some ("DUP" ++ toString (opcode - 0x7F))
  else if 0x90 ≤ opcode ∧ opcode ≤ 0x9F then some ("SWAP" ++ toString (opcode - 0x8F))
  else runs.findSome? fun (first, names) =>
    if first ≤ opcode then names[opcode - first]? else none

/-- The hexadecimal digits of a number in capitals, at least one. -/
def capitalDigits (value : Nat) : String :=
  String.ofList ((if value = 0 then ['0'] else Hex.digitsOf value).map Char.toUpper)

/-- The mnemonic of an opcode that is not in use: its number in hexadecimal, two characters wide
with its sign at least. -/
def unknownMnemonic (opcode : Int) : String :=
  let digits := capitalDigits opcode.natAbs
  "UNKNOWN_" ++ if opcode < 0 then "-" ++ digits
    else if digits.length < 2 then "0" ++ digits else digits

/-- The mnemonic and operand width of any number taken as an opcode. -/
def describe (opcode : Int) : String × Nat :=
  match opcode with
  | .ofNat number =>
      match mnemonic? number with
      | some mnemonic => (mnemonic, operandWidth number)
      | none => (unknownMnemonic opcode, 0)
  | .negSucc _ => (unknownMnemonic opcode, 0)

/-- The mnemonic of an opcode byte. -/
def mnemonic (opcode : UInt8) : String :=
  (describe opcode.toNat).1

/-- Every opcode in use with its mnemonic and operand width, in order. -/
def table : List (Nat × String × Nat) :=
  (List.range 256).filterMap fun opcode =>
    (mnemonic? opcode).map fun mnemonic => (opcode, mnemonic, operandWidth opcode)

end TokenLens.Opcode
