import Zpc.S0.NonceTable

/-!
# S0 encapsulation of one frame

The AES helpers of `zwave_s0_transport.c` and the layout of a Security Message
Encapsulation frame.  The block function is a parameter.  Output feedback runs the same
key stream over the payload in both directions, and the authentication tag covers a
header that both sides build on their own.
-/

namespace S0

/-- Sixteen bytes. -/
abbrev Block := Vector UInt8 16

/-- `AES128_ECB_encrypt`, from the key and the input to the output. -/
abbrev BlockCipher := Block -> Block -> Block

def commandClassSecurity : UInt8 := 0x98

def securityMessageEncapsulation : UInt8 := 0x81

def securityMessageEncapsulationNonceGet : UInt8 := 0xC1

/-- `SECURITY_MESSAGE_ENCAPSULATION_PROPERTIES1_SEQUENCED_BIT_MASK`. -/
def sequencedBitMask : UInt8 := 0x10

/-- `SECURITY_MESSAGE_ENCAPSULATION_PROPERTIES1_SECOND_FRAME_BIT_MASK`. -/
def secondFrameBitMask : UInt8 := 0x20

def s0EncapHeaderLen : Nat := 20

/-- The keys that are derived from a network key. -/
structure Keys where
  authKey : Block
  encKey : Block
  deriving DecidableEq

variable (aes : BlockCipher)

/-- The derivation of `s0_set_key`. -/
def keysOf (networkKey : Block) : Keys where
  authKey := aes networkKey (.replicate 16 0x55)
  encKey := aes networkKey (.replicate 16 0xAA)

section Modes

variable (aes : BlockCipher) (key : Block)

/-- `aes_ofb` from a position of the data on. -/
def aesOfb (iv : Block) (position : Nat) : List UInt8 -> List UInt8
  | [] => []
  | byte :: rest =>
      let iv := if position % 16 = 0 then aes key iv else iv
      (byte ^^^ iv.get ⟨position % 16, Nat.mod_lt position (by decide)⟩) ::
        aesOfb iv (position + 1) rest

/-- One round of the loop of `aes_cbc_mac`. -/
def macRound (mac : Block) (position : Nat) (byte : UInt8) : Block :=
  let inBlock := Nat.mod_lt position (show 0 < 16 by decide)
  let mac := mac.set (position % 16) (mac.get ⟨position % 16, inBlock⟩ ^^^ byte) inBlock
  if position % 16 = 15 then aes key mac else mac

/-- The loop of `aes_cbc_mac` from a position of the data on. -/
def macRounds (mac : Block) (position : Nat) : List UInt8 -> Block
  | [] => mac
  | byte :: rest => macRounds (macRound aes key mac position byte) (position + 1) rest

def aesCbcMac (iv : Block) (data : List UInt8) : Block :=
  let mac := macRounds aes key (aes key iv) 0 data
  if data.length % 16 ≠ 0 then aes key mac else mac

@[simp] theorem length_aesOfb (iv : Block) (position : Nat) (data : List UInt8) :
    (aesOfb aes key iv position data).length = data.length := by
  induction data generalizing iv position with
  | nil => rfl
  | cons byte rest ih =>
    unfold aesOfb
    rw [List.length_cons, List.length_cons, ih]

theorem aesOfb_aesOfb (iv : Block) (position : Nat) (data : List UInt8) :
    aesOfb aes key iv position (aesOfb aes key iv position data) = data := by
  induction data generalizing iv position with
  | nil => rfl
  | cons byte rest ih =>
    rw [aesOfb, aesOfb]
    rw [ih, UInt8.xor_assoc, UInt8.xor_self, UInt8.xor_zero]

end Modes

/-- The initialization vector of a frame, from the nonces of its two sides. -/
def initializationVector (sendersNonce receiversNonce : Nonce) : Block :=
  (sendersNonce ++ receiversNonce : Vector UInt8 (8 + 8))

/-- The nonce at the beginning of some bytes. -/
def nonceOf (bytes : List UInt8) : Nonce := .ofFn fun index => bytes.getD index.val 0

/-- A node id in a frame. -/
def nodeIdByte (nodeId : NodeId) : UInt8 := UInt8.ofNat nodeId

/-- `auth_data_t` with the payload after it. -/
def authData (sh sender receiver : UInt8) (payload : List UInt8) : List UInt8 :=
  sh :: sender :: receiver :: UInt8.ofNat payload.length :: payload

/-- The authentication tag of a frame. -/
def authTag (keys : Keys) (iv : Block) (sh : UInt8) (sender receiver : NodeId)
    (payload : List UInt8) : List UInt8 :=
  (aesCbcMac aes keys.authKey iv
    (authData sh (nodeIdByte sender) (nodeIdByte receiver) payload)).toList.take 8

/-- The frame that `s0_encrypt_message` builds for some flags and data. -/
def encapsulatedFrame (keys : Keys) (sendersNonce receiversNonce : Nonce) (sh : UInt8)
    (sender receiver : NodeId) (flags : UInt8) (data : List UInt8) : List UInt8 :=
  let iv := initializationVector sendersNonce receiversNonce
  let payload := aesOfb aes keys.encKey iv 0 (flags :: data)
  commandClassSecurity :: sh :: sendersNonce.toList ++ payload ++
    receiversNonce.identifier :: authTag aes keys iv sh sender receiver payload

/-- The receiver's nonce identifier of a frame. -/
def receiversNonceIdentifier (frame : List UInt8) : UInt8 := frame.getD (frame.length - 9) 0

/-- What `s0_decrypt_message` reads from a frame with a known nonce: the flags and the data,
unless the authentication tag differs. -/
def openedFrame (keys : Keys) (receiversNonce : Nonce) (sender receiver : NodeId)
    (frame : List UInt8) : Option (UInt8 × List UInt8) :=
  let iv := initializationVector (nonceOf (frame.drop 2)) receiversNonce
  let payload := (frame.drop 10).take (frame.length - 19)
  if authTag aes keys iv (frame.getD 1 0) sender receiver payload =
      frame.drop (frame.length - 8) then
    match aesOfb aes keys.encKey iv 0 payload with
    | flags :: data => some (flags, data)
    | [] => none
  else none

theorem nonceOf_append (nonce : Nonce) (rest : List UInt8) :
    nonceOf (nonce.toList ++ rest) = nonce := by
  apply Vector.ext
  intro index inside
  unfold nonceOf
  rw [Vector.getElem_ofFn, List.getD_eq_getElem?_getD,
    List.getElem?_append_left (by simpa using inside)]
  simp [inside]

theorem length_authTag (keys : Keys) (iv : Block) (sh : UInt8) (sender receiver : NodeId)
    (payload : List UInt8) : (authTag aes keys iv sh sender receiver payload).length = 8 := by
  unfold authTag
  rw [List.length_take, Vector.length_toList]
  rfl

theorem drop_length_sub (first last : List UInt8) :
    (first ++ last).drop ((first ++ last).length - last.length) = last := by
  rw [List.length_append, Nat.add_sub_cancel]
  exact List.drop_left

theorem parts_of_frame (classByte command identifier : UInt8) (payload : List UInt8)
    {nonce tag : List UInt8} (nonceLength : nonce.length = 8) (tagLength : tag.length = 8)
    {frame : List UInt8}
    (isFrame : frame = classByte :: command :: (nonce ++ (payload ++ identifier :: tag))) :
    (frame.drop 10).take (frame.length - 19) = payload ∧
      frame.drop (frame.length - 8) = tag ∧ frame.getD (frame.length - 9) 0 = identifier := by
  have afterNonce : frame.drop 10 = payload ++ identifier :: tag := by
    rw [isFrame]
    exact List.drop_left' nonceLength
  have length : frame.length = payload.length + 19 := by
    rw [isFrame]
    simp [nonceLength, tagLength]
    omega
  have last : frame.drop (frame.length - 9) = identifier :: tag := by
    have split : frame = (classByte :: command :: (nonce ++ payload)) ++ identifier :: tag := by
      rw [isFrame]
      simp
    have dropped := drop_length_sub (classByte :: command :: (nonce ++ payload)) (identifier :: tag)
    rw [← split, List.length_cons, tagLength] at dropped
    exact dropped
  refine ⟨?_, ?_, ?_⟩
  · rw [afterNonce, length]
    exact List.take_left
  · have next : frame.drop (frame.length - 8) = (frame.drop (frame.length - 9)).drop 1 := by
      rw [List.drop_drop]
      congr 1
      omega
    rw [next, last]
    rfl
  · rw [List.getD_eq_getElem?_getD, ← List.head?_drop, last]
    rfl

section RoundTrip

variable (aes : BlockCipher) (keys : Keys) (sendersNonce receiversNonce : Nonce) (sh : UInt8)
variable (sender receiver : NodeId) (flags : UInt8) (data : List UInt8)

/-- The payload of a frame. -/
def encryptedPayload : List UInt8 :=
  aesOfb aes keys.encKey (initializationVector sendersNonce receiversNonce) 0 (flags :: data)

theorem encapsulatedFrame_eq :
    encapsulatedFrame aes keys sendersNonce receiversNonce sh sender receiver flags data =
      commandClassSecurity :: sh :: (sendersNonce.toList ++
        (encryptedPayload aes keys sendersNonce receiversNonce flags data ++
          receiversNonce.identifier :: authTag aes keys
            (initializationVector sendersNonce receiversNonce) sh sender receiver
            (encryptedPayload aes keys sendersNonce receiversNonce flags data))) := by
  simp [encapsulatedFrame, encryptedPayload]

theorem length_encapsulatedFrame :
    (encapsulatedFrame aes keys sendersNonce receiversNonce sh sender receiver flags data).length =
      data.length + s0EncapHeaderLen := by
  unfold encapsulatedFrame s0EncapHeaderLen
  simp [length_authTag]
  omega

theorem receiversNonceIdentifier_encapsulatedFrame :
    receiversNonceIdentifier
      (encapsulatedFrame aes keys sendersNonce receiversNonce sh sender receiver flags data) =
        receiversNonce.identifier :=
  (parts_of_frame _ _ _ _ sendersNonce.length_toList (length_authTag _ _ _ _ _ _ _)
    (encapsulatedFrame_eq aes keys sendersNonce receiversNonce sh sender receiver flags
      data)).2.2

theorem openedFrame_encapsulatedFrame :
    openedFrame aes keys receiversNonce sender receiver
      (encapsulatedFrame aes keys sendersNonce receiversNonce sh sender receiver flags data) =
        some (flags, data) := by
  have split := encapsulatedFrame_eq aes keys sendersNonce receiversNonce sh sender receiver flags
    data
  obtain ⟨payload, tag, -⟩ := parts_of_frame _ _ _ _ sendersNonce.length_toList
    (length_authTag _ _ _ _ _ _ _) split
  generalize encapsulatedFrame aes keys sendersNonce receiversNonce sh sender receiver flags
    data = frame at split payload tag ⊢
  have nonce : nonceOf (frame.drop 2) = sendersNonce := by
    rw [split]
    exact nonceOf_append sendersNonce _
  have header : frame.getD 1 0 = sh := by
    rw [split]
    rfl
  unfold openedFrame
  rw [nonce, header, payload, tag, if_pos rfl, encryptedPayload, aesOfb_aesOfb]

end RoundTrip

end S0
