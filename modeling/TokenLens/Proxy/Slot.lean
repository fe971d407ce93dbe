import TokenLens.Evm.Sweep

/-!
# Storage slots of proxies

The slots in which proxies of the known patterns keep the address they delegate to, who may change
it, or where to ask for it.
-/

namespace TokenLens

/-- A storage slot with its name. The word is written with its mark, as nodes are asked for it. -/
structure StorageSlot where
  word : Text
  name : Text
deriving DecidableEq, Repr

namespace StorageSlot

/-- The slot of the implementation in an EIP-1967 proxy. -/
def implementation : StorageSlot :=
  ⟨"0x360894a13ba1a3210667c828492db98dca3e2076cc3735a920a3ca505d382bbc",
   "eip1967.implementation"⟩

/-- The slot of the administrator of an EIP-1967 proxy. -/
def administrator : StorageSlot :=
  ⟨"0xb53127684a568b3173ae13b9f8a6016e243e63b6e8ee1178d6a717850b5d6103", "eip1967.admin"⟩

/-- The slot of the beacon of an EIP-1967 proxy, which knows the implementation. -/
def beacon : StorageSlot :=
  ⟨"0xa3f0ad74e5423aebfd80d3ef4346578335a9a72aeaee59ff6cb3582b35133d50", "eip1967.beacon"⟩

/-- The slot of the implementation in an EIP-1822 proxy. -/
def proxiable : StorageSlot :=
  ⟨"0xc5f16f0fcc639fa48a6947836d9850f504798523bf8c9a3a87d5876cf622bcf7", "eip1822.proxiable"⟩

/-- The slot of the implementation in a ZeppelinOS proxy. -/
def zeppelin : StorageSlot :=
  ⟨"0x7050c9e0f4ca769c69bd3a8ef740bc37934f8e2c036e5a723fd8ee048ed3f8c3",
   "zeppelinos.implementation"⟩

/-- All slots that are recognised in code. -/
def known : List StorageSlot :=
  [implementation, administrator, beacon, proxiable, zeppelin]

/-- The known slot whose word an operand is. -/
def ofOperand? (operand : List UInt8) : Option StorageSlot :=
  known.find? fun slot => slot.word = "0x" ++ Text.ofChars (Hex.ofBytes operand)

end StorageSlot

end TokenLens
