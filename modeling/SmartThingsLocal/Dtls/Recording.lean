import SmartThingsLocal.Dtls.RecordProtection

/-!
# Primitives that answer from a recording

What an exchange recorded of the functions it called gives primitives that return the
recorded results where they are called as they were then, and keep their laws elsewhere.
-/

namespace SmartThingsLocal

/-- A text and its encryption under a key and an IV. -/
structure RecordedCipher where
  key : ByteString
  iv : ByteString
  plain : ByteString
  cipher : ByteString
  length_eq : plain.length = cipher.length

/-- The results of an exchange; a digest is recorded as a number. -/
structure Recording where
  hmacs : List ((ByteString × ByteString) × ℕ) := []
  hashes : List (ByteString × ℕ) := []
  ciphers : List RecordedCipher := []
  random : List ℕ := []
  privateKey : ℕ := 0
  publicKey : ℕ := 0
  peerPoint : ByteString := []
  shared : ℕ := 0

namespace Recording

open Dtls

/-- The texts that a cipher pairs change places, so encryption and decryption are the same. -/
def pair (recording : Recording) (key iv : ByteString) : Equiv.Perm ByteString :=
  match recording.ciphers.find? fun cipher => cipher.key = key ∧ cipher.iv = iv with
  | none => Equiv.refl _
  | some cipher => Equiv.swap cipher.plain cipher.cipher

theorem length_pair (recording : Recording) (key iv text : ByteString) :
    (recording.pair key iv text).length = text.length := by
  unfold pair
  cases recording.ciphers.find? fun cipher => cipher.key = key ∧ cipher.iv = iv with
  | none => rfl
  | some cipher =>
      dsimp only
      rw [Equiv.swap_apply_def]
      split_ifs with plain recorded
      · rw [plain, cipher.length_eq]
      · rw [recorded, cipher.length_eq]
      · rfl

theorem pair_pair (recording : Recording) (key iv text : ByteString) :
    recording.pair key iv (recording.pair key iv text) = text := by
  unfold pair
  cases recording.ciphers.find? fun cipher => cipher.key = key ∧ cipher.iv = iv with
  | none => rfl
  | some cipher => exact Equiv.swap_apply_self _ _ text

def primitives (recording : Recording) : Primitives where
  hmacSha256 key message := ByteString.ofNat macLen ((recording.hmacs.lookup (key, message)).getD 0)
  length_hmacSha256 _ _ := ByteString.length_ofNat _ _
  sha256 message := ByteString.ofNat macLen ((recording.hashes.lookup message).getD 0)
  aesCbcEncrypt key iv text := recording.pair key iv text
  aesCbcDecrypt key iv text := recording.pair key iv text
  length_aesCbcEncrypt key iv text _ := recording.length_pair key iv text
  length_aesCbcDecrypt key iv text _ := recording.length_pair key iv text
  aesCbcDecrypt_encrypt key iv text _ := recording.pair_pair key iv text
  generatePrivateKey _ := recording.privateKey
  publicBytes _ := ByteString.ofNat 65 recording.publicKey
  length_publicBytes _ := ByteString.length_ofNat _ _
  isEncodedPoint point := point = recording.peerPoint
  exchange _ _ := ByteString.ofNat 32 recording.shared
  length_exchange _ _ _ := ByteString.length_ofNat _ _
  urandom draw size := ByteString.ofNat size (recording.random.getD draw 0)
  length_urandom _ _ := ByteString.length_ofNat _ _
  now draw := draw

/-- What a PRF calls for one block after the other, from the text after the label on. -/
def prfEntries (secret labelled : ByteString) :
    List (ℕ × ℕ) → ByteString → List ((ByteString × ByteString) × ℕ)
  | [], _ => []
  | (a, output) :: blocks, previous =>
      ((secret, previous), a) :: ((secret, ByteString.ofNat macLen a ++ labelled), output) ::
        prfEntries secret labelled blocks (ByteString.ofNat macLen a)

/-- The calls of a whole PRF. -/
def prfCalls (secret labelled : ByteString) (blocks : List (ℕ × ℕ)) :
    List ((ByteString × ByteString) × ℕ) :=
  prfEntries secret labelled blocks labelled

/-! ### An exchange -/

namespace Sample

def identity : ByteString := [1]

def psk : ByteString := List.replicate 16 2

/-- ServerHello, ServerKeyExchange and ServerHelloDone. -/
def serverMessages : ByteString :=
  ByteString.ofNat 32 0x20000260000000000000026fefd000000000000000000000000000000000000 ++
    ByteString.ofNat 32 0x900c037000c00004700010000000000470000 ++
    ByteString.ofNat 32 0x30017410463c3fc73c1007c69895859608d8bae16b2307fcb114ed2fd249fd2 ++
    ByteString.ofNat 32 0x4e4c82b33b195510ede25145f8f2c466c6a87c9ff9105223febbdc568a6807fd ++
    ByteString.ofNat 17 0x2236c1da9e0e0000000002000000000000

def clientHello : ByteString :=
  ByteString.ofNat 32 0x100003a000000000000003afefd000000000000000000000000000000000000 ++
    ByteString.ofNat 32 0x700000002c0370100000e000a000400020017 ++
    ByteString.ofNat 6 0xb00020100

def publicKey : ByteString :=
  ByteString.ofNat 32 0x405dbd21f03e149b5d708d21c44a2338a7a4a5af21dcab0c0ae8ec6ff18ae6f ++
    ByteString.ofNat 32 0x78bc1f0133f7b88ae783cda67605dd2a6743742315f23630f061da3e70098dba ++
    ByteString.ofNat 1 0x26

def shared : ByteString :=
  ByteString.ofNat 32 0xd0bde9d51999100b12208343c6cf9d34c8481d4de29ac24fa1a4aa6178a690e6

def masterSecret : ByteString :=
  ByteString.ofNat 32 0x6290f9f73821be0b799228ca0e24155ec75ec6a99c38f6296b0cb0b79b6c63d9 ++
    ByteString.ofNat 16 0xd0f67aebfb131400b2c25324cd3e0234

def keys : Transform := Transform.ofKeyBlock (
  ByteString.ofNat 32 0x7f2a37117e4a882b5b60c15e6074c460a4be866ed3218fab2b209ea4f94f9771 ++
    ByteString.ofNat 32 0x78442d6d142c640a5f593e77ad22c7c744e3f480a82a7351a9f1a0d50fc0b5b7 ++
    ByteString.ofNat 32 0x47dd1a5162ee0d85f4311a3892708faf0c82823bde151c05fca2529c7227319d)

def clientKeyExchange : ByteString :=
  ByteString.ofNat 32 0x100000450001000000000045000101410405dbd21f03e149b5d708d21c44a233 ++
    ByteString.ofNat 32 0x8a7a4a5af21dcab0c0ae8ec6ff18ae6f78bc1f0133f7b88ae783cda67605dd2a ++
    ByteString.ofNat 17 0x6743742315f23630f061da3e70098dba26

def clientFinished : ByteString :=
  ByteString.ofNat 24 0x1400000c000200000000000c9b0e8c9c7d5282de608b934b

def peerPoint : ByteString := (serverMessages.drop 68).take 65

/-- The messages before the Finished of the client. -/
def transcript : ByteString := clientHello ++ serverMessages ++ clientKeyExchange

def randoms : ByteString × ByteString := (ByteString.ofNat 32 7, ByteString.ofNat 32 9)

def hmacs : List ((ByteString × ByteString) × ℕ) :=
  let premaster := ByteString.ofNat 2 32 ++ shared ++ ByteString.ofNat 2 16 ++ psk
  let digests := [
    ByteString.ofNat 32 0xd0860252d5475c61c882e6040317146281ced157169256558847ae3b3e86ff43,
    ByteString.ofNat 32 0x94dc0a1dfb4bccb449690aee699321dcd7659c25da913174d9a85b3212a487a0]
  prfCalls premaster (ascii "master secret" ++ randoms.1 ++ randoms.2)
    [(0xfe52703e285321d7543b757e6c6798f4a2ec5071a9cf61b021637a48f3f69a67,
        0x6290f9f73821be0b799228ca0e24155ec75ec6a99c38f6296b0cb0b79b6c63d9),
      (0x5ace49bc1256306d6dc679ba996ecfcd27841af27a3f6e432c516819db14fb4,
        0xd0f67aebfb131400b2c25324cd3e0234cef134b19d36623264213308a9ee2b89)] ++
  prfCalls masterSecret (ascii "key expansion" ++ randoms.2 ++ randoms.1)
    [(0x7d262f4bfb90305e33720a6a49520519cfb343532c6a8b799bb3102f29e624ee,
        0x7f2a37117e4a882b5b60c15e6074c460a4be866ed3218fab2b209ea4f94f9771),
      (0x7ab1c6fbb133f15934432fcada973f611bdcc87844dfe5fec4cf181f997b9172,
        0x78442d6d142c640a5f593e77ad22c7c744e3f480a82a7351a9f1a0d50fc0b5b7),
      (0x2eb8d6f2ecde07daeb64f9621e9b49225cbbb6404404c16277df9ee3524a1bc6,
        0x47dd1a5162ee0d85f4311a3892708faf0c82823bde151c05fca2529c7227319d)] ++
  prfCalls masterSecret (ascii "client finished" ++ digests.getD 0 [])
    [(0xdd5c7aef4c0c55b44f8fe2dde087a986bea636188e8b14a8c24a09021716d912,
        0x9b0e8c9c7d5282de608b934b579c42eab7887c797dff27c36cf9478f5ad48d7e)] ++
  prfCalls masterSecret (ascii "server finished" ++ digests.getD 1 [])
    [(0xeb561c4005eec7c7b5cc572d778a118d8e2e0b2ac4c323bfed3bf1fdfb024495,
        0x9b26e3dfec734d6066d55fba706ae007cfd674183a0e82a7c7d280de6e185a0c)] ++
  [((keys.macEnc, ByteString.ofNat 37
      0x100000000000016fefd00181400000c000200000000000c9b0e8c9c7d5282de608b934b),
      0x516997ae24d2fa954c59b89f7385b29dfa13443bb3a8e81230cabf00d501bbdb),
    ((keys.macDec, ByteString.ofNat 37
      0x100000000000016fefd00181400000c000300000000000c9b26e3dfec734d6066d55fba),
      0xa54ec088c131290eb1255c6d7dee1b22ce6f06f5da848efad02542ff7e3840c4),
    ((keys.macDec, ByteString.ofNat 15
      0x100000000000117fefd00020506),
      0x2b2eeff10cfd1dd78b45624a1e69c7fd1ba1b0576dde5a658a3424a8fb058b7b),
    ((keys.macDec, ByteString.ofNat 28
      0x100000000000917fefd000fb6f3ac77b4900e15e66776ba1d3dc9),
      0x836b8e000352ee7f150cba855e14c92f21e5d1e5bc4043bb5b6ab695ae5e5f3c)]

def ciphers : List RecordedCipher :=
  [⟨keys.encKey, ByteString.ofNat 16 0x5,
      ByteString.ofNat 32 0x1400000c000200000000000c9b0e8c9c7d5282de608b934b516997ae24d2fa95 ++
      ByteString.ofNat 32 0x4c59b89f7385b29dfa13443bb3a8e81230cabf00d501bbdb0707070707070707,
      ByteString.ofNat 32 0x573576a495c7bbf2788d350bad89fe2b635679c370d4a924e923bf4adbd0774d ++
      ByteString.ofNat 32 0x9109bb527e26d1f81d48a88dce3831320e7215d6648972a6f6f7c83388a1fe81,
      by simp⟩,
    ⟨keys.decKey, ByteString.ofNat 16 0xb,
      ByteString.ofNat 32 0x1400000c000300000000000c9b26e3dfec734d6066d55fbaa54ec088c131290e ++
      ByteString.ofNat 32 0xb1255c6d7dee1b22ce6f06f5da848efad02542ff7e3840c40707070707070707,
      ByteString.ofNat 32 0xa25c143fa68a81c7821cdc54acea22cf6e23416235e7211960e64d843e4fd60d ++
      ByteString.ofNat 32 0xf054894a9dbba28f5c26a07266eab5a1742fd1778ad24593a3aabaf0aa67d7ca,
      by simp⟩,
    ⟨keys.decKey, ByteString.ofNat 16 0xc,
      ByteString.ofNat 32 0x5062b2eeff10cfd1dd78b45624a1e69c7fd1ba1b0576dde5a658a3424a8fb05 ++
      ByteString.ofNat 16 0x8b7b0d0d0d0d0d0d0d0d0d0d0d0d0d0d,
      ByteString.ofNat 32 0x6f45ab145abb2daac1e7de2078af0fa5a5501aab96128d2d48aa3556b6d49b1f ++
      ByteString.ofNat 16 0xd8861c660cbfa810f5158846491fafb, by simp⟩,
    ⟨keys.decKey, ByteString.ofNat 16 0xd,
      ByteString.ofNat 32 0xb6f3ac77b4900e15e66776ba1d3dc956f4f8ac1d0f77c9fe9b812bb1299f59bc ++
      ByteString.ofNat 16 0x3b0e9258ab6b644104b9c287ceb5d7ab,
      ByteString.ofNat 32 0x102030405060708090a0b0c0d0e0f101112131415161718191a1b1c1d1e1f ++
      ByteString.ofNat 16 0x202122232425262728292a2b2c2d2e2f, by simp⟩]

/-- A record that carries a fragment. -/
def record (contentType : UInt8) (epoch seq : ℕ) (fragment : ByteString) : ByteString :=
  contentType :: version ++ ByteString.ofNat 2 epoch ++ ByteString.ofNat 6 seq ++
    ByteString.ofNat 2 fragment.length ++ fragment

/-- A protected record of the server, from the recorded cipher. -/
def protectedRecord (contentType : UInt8) (seq index : ℕ) : ByteString :=
  record contentType 1 seq ((ciphers.drop index).take 1 |>.flatMap fun cipher =>
    cipher.iv ++ cipher.cipher)

end Sample

/-- An exchange of the handshake, a payload of the server and a record that was tampered with. -/
def sample : Recording where
  hmacs := Sample.hmacs
  hashes := [(Sample.transcript, 
    0xd0860252d5475c61c882e6040317146281ced157169256558847ae3b3e86ff43),
    (Sample.transcript ++ Sample.clientFinished, 
    0x94dc0a1dfb4bccb449690aee699321dcd7659c25da913174d9a85b3212a487a0)]
  ciphers := Sample.ciphers
  random := [7, 0, 0, 0, 0, 5]
  privateKey := 0x25c39bfd3e6f2f56b3fbe8d5e370bf8ddfab35a1675202f1b4643d72b419d879
  publicKey := ByteString.toNat Sample.publicKey
  peerPoint := Sample.peerPoint
  shared := ByteString.toNat Sample.shared

end Recording

end SmartThingsLocal
