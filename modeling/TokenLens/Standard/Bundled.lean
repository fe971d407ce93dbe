import TokenLens.Standard.Registry

/-!
# The bundled standards

The tiers of ERC20, ERC721 and ERC1155, in this order. Each tier is written as what it adds to the
one below, so the tiers nest by construction.
-/

namespace TokenLens

namespace Declaration

/-- A function with parameters of elementary types. -/
def function (name : Text) (types : List Text) : Declaration :=
  ⟨.function, ⟨name, types.map .elementary⟩⟩

/-- An event with parameters of elementary types. -/
def event (name : Text) (types : List Text) : Declaration :=
  ⟨.event, ⟨name, types.map .elementary⟩⟩

end Declaration

namespace Standard

open Declaration

/-- What a contract with an owner offers. -/
def ownership : List Declaration :=
  [function "owner" [], function "renounceOwnership" [],
   function "transferOwnership" ["address"],
   event "OwnershipTransferred" ["address", "address"]]

/-- A standard whose tiers are given by what each adds to the one below. -/
def ofLayers (name : Text) (core canonical extensions : List Declaration) : Standard :=
  ofDeclarations name core (core ++ canonical) (core ++ canonical ++ extensions)

/-- Fungible tokens. -/
def erc20 : Standard :=
  ofLayers "erc20"
    [function "totalSupply" [], function "balanceOf" ["address"],
     function "transfer" ["address", "uint256"],
     function "allowance" ["address", "address"],
     function "approve" ["address", "uint256"],
     function "transferFrom" ["address", "address", "uint256"],
     event "Transfer" ["address", "address", "uint256"],
     event "Approval" ["address", "address", "uint256"]]
    [function "name" [], function "symbol" [], function "decimals" []]
    (ownership ++
     [function "increaseAllowance" ["address", "uint256"],
      function "decreaseAllowance" ["address", "uint256"],
      function "mint" ["address", "uint256"], function "burn" ["uint256"],
      function "burnFrom" ["address", "uint256"],
      function "permit"
        ["address", "address", "uint256", "uint256", "uint8", "bytes32", "bytes32"],
      function "nonces" ["address"], function "DOMAIN_SEPARATOR" []])

/-- Tokens that are told apart by an identifier. -/
def erc721 : Standard :=
  ofLayers "erc721"
    [function "balanceOf" ["address"], function "ownerOf" ["uint256"],
     function "safeTransferFrom" ["address", "address", "uint256"],
     function "safeTransferFrom" ["address", "address", "uint256", "bytes"],
     function "transferFrom" ["address", "address", "uint256"],
     function "approve" ["address", "uint256"],
     function "setApprovalForAll" ["address", "bool"],
     function "getApproved" ["uint256"],
     function "isApprovedForAll" ["address", "address"],
     function "supportsInterface" ["bytes4"],
     event "Transfer" ["address", "address", "uint256"],
     event "Approval" ["address", "address", "uint256"],
     event "ApprovalForAll" ["address", "address", "bool"]]
    [function "name" [], function "symbol" [], function "tokenURI" ["uint256"],
     function "totalSupply" [], function "tokenByIndex" ["uint256"],
     function "tokenOfOwnerByIndex" ["address", "uint256"]]
    (ownership ++
     [function "burn" ["uint256"], function "safeMint" ["address", "uint256"],
      function "contractURI" [], function "royaltyInfo" ["uint256", "uint256"],
      event "MetadataUpdate" ["uint256"],
      event "BatchMetadataUpdate" ["uint256", "uint256"]])

/-- Many tokens of either sort in one contract. -/
def erc1155 : Standard :=
  ofLayers "erc1155"
    [function "balanceOf" ["address", "uint256"],
     function "balanceOfBatch" ["address[]", "uint256[]"],
     function "setApprovalForAll" ["address", "bool"],
     function "isApprovedForAll" ["address", "address"],
     function "safeTransferFrom" ["address", "address", "uint256", "uint256", "bytes"],
     function "safeBatchTransferFrom"
       ["address", "address", "uint256[]", "uint256[]", "bytes"],
     function "supportsInterface" ["bytes4"],
     event "TransferSingle" ["address", "address", "address", "uint256", "uint256"],
     event "TransferBatch" ["address", "address", "address", "uint256[]", "uint256[]"],
     event "ApprovalForAll" ["address", "address", "bool"],
     event "URI" ["string", "uint256"]]
    [function "uri" ["uint256"]]
    (ownership ++
     [function "name" [], function "symbol" [], function "totalSupply" ["uint256"],
      function "exists" ["uint256"], function "burn" ["address", "uint256", "uint256"],
      function "burnBatch" ["address", "uint256[]", "uint256[]"],
      function "royaltyInfo" ["uint256", "uint256"]])

end Standard

namespace Registry

/-- The bundled registry. -/
def bundled : Registry :=
  ⟨[.erc20, .erc721, .erc1155]⟩

/-- A registry that was handed over and holds a standard, the bundled one otherwise. -/
def orBundled : Option Registry → Registry
  | some ⟨first :: rest⟩ => ⟨first :: rest⟩
  | _ => bundled

end Registry

end TokenLens
