import LineScopes.Unicode.Binary

/-!
# Grapheme clusters

Where a text may be cut without separating a base character from the marks,
joiners and syllable parts that belong to it.
-/

namespace LineScopes.Unicode

inductive ClusterClass
  | carriageReturn | lineFeed | control | extend | joiner | prepend | spacingMark
  | leading | vowel | trailing | leadingVowel | leadingVowelTrailing
  | regional | pictograph | other
  deriving DecidableEq, Repr

private def controls : CodeSet := .ofTable
  "0-9 B-C E-1F 7F-9F AD 61C 180E 200B 200E-200F 2028-202E 2060-206F FEFF FFF0-FFFB 13430-1343F
    1BCA0-1BCA3 1D173-1D17A E0000-E001F E0080-E00FF E01F0-E0FFF"

private def prepends : CodeSet := .ofTable
  "600-605 6DD 70F 890-891 8E2 D4E 110BD 110CD 111C2-111C3 1193F 11941 11A3A 11A84-11A89 11D46
    11F02"

private def spacingMarks : CodeSet := .ofTable
  "903 93B 93E-940 949-94C 94E-94F 982-983 9BF-9C0 9C7-9C8 9CB-9CC A03 A3E-A40 A83 ABE-AC0 AC9
    ACB-ACC B02-B03 B40 B47-B48 B4B-B4C BBF BC1-BC2 BC6-BC8 BCA-BCC C01-C03 C41-C44 C82-C83 CBE
    CC0-CC1 CC3-CC4 CC7-CC8 CCA-CCB CF3 D02-D03 D3F-D40 D46-D48 D4A-D4C D82-D83 DD0-DD1 DD8-DDE
    DF2-DF3 E33 EB3 F3E-F3F F7F 1031 103B-103C 1056-1057 1084 1715 1734 17B6 17BE-17C5 17C7-17C8
    1923-1926 1929-192B 1930-1931 1933-1938 1A19-1A1A 1A55 1A57 1A6D-1A72 1B04 1B3B 1B3D-1B41
    1B43-1B44 1B82 1BA1 1BA6-1BA7 1BAA 1BE7 1BEA-1BEC 1BEE 1BF2-1BF3 1C24-1C2B 1C34-1C35 1CE1 1CF7
    A823-A824 A827 A880-A881 A8B4-A8C3 A952-A953 A983 A9B4-A9B5 A9BA-A9BB A9BE-A9C0 AA2F-AA30
    AA33-AA34 AA4D AAEB AAEE-AAEF AAF5 ABE3-ABE4 ABE6-ABE7 ABE9-ABEA ABEC 11000 11002 11082
    110B0-110B2 110B7-110B8 1112C 11145-11146 11182 111B3-111B5 111BF-111C0 111CE 1122C-1122E
    11232-11233 11235 112E0-112E2 11302-11303 1133F 11341-11344 11347-11348 1134B-1134D 11362-11363
    11435-11437 11440-11441 11445 114B1-114B2 114B9 114BB-114BC 114BE 114C1 115B0-115B1 115B8-115BB
    115BE 11630-11632 1163B-1163C 1163E 116AC 116AE-116AF 116B6 11726 1182C-1182E 11838 11931-11935
    11937-11938 1193D 11940 11942 119D1-119D3 119DC-119DF 119E4 11A39 11A57-11A58 11A97 11C2F 11C3E
    11CA9 11CB1 11CB4 11D8A-11D8E 11D93-11D94 11D96 11EF5-11EF6 11F03 11F34-11F35 11F3E-11F3F 11F41
    16F51-16F87 16FF0-16FF1 1D166 1D16D"

private def extenders : CodeSet := (binary "Gr_Ext").union (binary "EMod")

private def pictographs : CodeSet := binary "ExtPict"

def clusterClass (c : Char) : ClusterClass :=
  let code := c.toNat
  if code = 0x0D then .carriageReturn
  else if code = 0x0A then .lineFeed
  else if code = 0x200D then .joiner
  else if controls.containsCode code then .control
  else if extenders.containsCode code then .extend
  else if code < 0x300 then (if code = 0xA9 ∨ code = 0xAE then .pictograph else .other)
  else if prepends.containsCode code then .prepend
  else if spacingMarks.containsCode code then .spacingMark
  else if (0x1100 ≤ code ∧ code ≤ 0x115F) ∨ (0xA960 ≤ code ∧ code ≤ 0xA97C) then .leading
  else if (0x1160 ≤ code ∧ code ≤ 0x11A7) ∨ (0xD7B0 ≤ code ∧ code ≤ 0xD7C6) then .vowel
  else if (0x11A8 ≤ code ∧ code ≤ 0x11FF) ∨ (0xD7CB ≤ code ∧ code ≤ 0xD7FB) then .trailing
  else if 0xAC00 ≤ code ∧ code ≤ 0xD7A3 then
    (if (code - 0xAC00) % 28 = 0 then .leadingVowel else .leadingVowelTrailing)
  else if 0x1F1E6 ≤ code ∧ code ≤ 0x1F1FF then .regional
  else if pictographs.containsCode code then .pictograph
  else .other

/-- A pictograph and its extenders, read backwards. -/
def endsInPictograph (before : List Char) : Bool :=
  match before.dropWhile fun c => clusterClass c = .extend with
  | c :: _ => clusterClass c = .pictograph
  | [] => false

/-- Whether the cluster ends before `next`; `before` holds the text so far, the nearest
character first. The start of the text is always a boundary. -/
def isClusterBoundary (before : List Char) (next : Char) : Bool :=
  match before with
  | [] => true
  | last :: earlier =>
    match clusterClass last, clusterClass next with
    | .carriageReturn, .lineFeed => false
    | .carriageReturn, _ | .lineFeed, _ | .control, _ => true
    | _, .carriageReturn | _, .lineFeed | _, .control => true
    | .leading, .leading | .leading, .vowel => false
    | .leading, .leadingVowel | .leading, .leadingVowelTrailing => false
    | .leadingVowel, .vowel | .leadingVowel, .trailing => false
    | .vowel, .vowel | .vowel, .trailing => false
    | .leadingVowelTrailing, .trailing | .trailing, .trailing => false
    | _, .extend | _, .joiner | _, .spacingMark => false
    | .prepend, _ => false
    | .joiner, .pictograph => ¬ endsInPictograph earlier
    | .regional, .regional =>
      (earlier.takeWhile fun c => clusterClass c = .regional).length % 2 = 1
    | _, _ => true

end LineScopes.Unicode
