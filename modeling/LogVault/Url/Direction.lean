import LogVault.Text.Blank
import LogVault.Text.Mark

/-!
# LogVault.Url.Direction — labels that run from right to left

Hebrew, Arabic and some other scripts run from right to left. A domain with a character of such a
script, or with an Arabic digit, is only admitted if each of its labels keeps its order when it is
shown among others: it has to begin with a letter, to go on in the direction of that letter, and to
end in a letter or a number; a label from right to left has one kind of digits at most.
-/

namespace LogVault.Url

open LogVault.Text

/-- **How a character runs**: as a letter in one of the two directions, as a digit of Europe or of
Arabic, as the character before it, or either way. -/
inductive Direction where
  | left
  | right
  | european
  | arabicIndic
  | mark
  | neutral
  deriving Repr, DecidableEq

namespace Direction

/-- The characters above ASCII that a domain can hold and that are no letters from left to right and
no marks. -/
def ranges : List (Nat × Nat × Direction) := [
  (0xA1, 0xA7, .neutral), (0xA9, 0xA9, .neutral), (0xAB, 0xAC, .neutral), (0xAE, 0xAE, .neutral),
  (0xB0, 0xB1, .neutral), (0xB6, 0xB7, .neutral), (0xBB, 0xBB, .neutral), (0xBF, 0xBF, .neutral),
  (0xD7, 0xD7, .neutral), (0xF7, 0xF7, .neutral), (0x2B9, 0x2BA, .neutral),
  (0x2C2, 0x2CF, .neutral), (0x2D2, 0x2D7, .neutral), (0x2DE, 0x2DF, .neutral),
  (0x2E5, 0x2ED, .neutral), (0x2EF, 0x2FF, .neutral), (0x375, 0x375, .neutral),
  (0x3F6, 0x3F6, .neutral), (0x58A, 0x58A, .neutral), (0x58D, 0x58F, .neutral),
  (0x5BE, 0x5BE, .right), (0x5C0, 0x5C0, .right), (0x5C3, 0x5C3, .right), (0x5C6, 0x5C6, .right),
  (0x5D0, 0x5EA, .right), (0x5EF, 0x5F4, .right), (0x606, 0x607, .neutral), (0x608, 0x608, .right),
  (0x609, 0x60A, .neutral), (0x60B, 0x60B, .right), (0x60C, 0x60C, .neutral),
  (0x60D, 0x60D, .right), (0x60E, 0x60F, .neutral), (0x61B, 0x61B, .right), (0x61D, 0x64A, .right),
  (0x660, 0x669, .arabicIndic), (0x66A, 0x66A, .neutral), (0x66B, 0x66C, .arabicIndic),
  (0x66D, 0x66F, .right), (0x671, 0x674, .right), (0x679, 0x6D5, .right), (0x6DE, 0x6DE, .neutral),
  (0x6E5, 0x6E6, .right), (0x6E9, 0x6E9, .neutral), (0x6EE, 0x6EF, .right),
  (0x6F0, 0x6F9, .european), (0x6FA, 0x70D, .right), (0x710, 0x710, .right), (0x712, 0x72F, .right),
  (0x74D, 0x7A5, .right), (0x7B1, 0x7B1, .right), (0x7C0, 0x7EA, .right), (0x7F4, 0x7F5, .right),
  (0x7F6, 0x7F9, .neutral), (0x7FA, 0x7FA, .right), (0x7FE, 0x815, .right), (0x81A, 0x81A, .right),
  (0x824, 0x824, .right), (0x828, 0x828, .right), (0x830, 0x83E, .right), (0x840, 0x858, .right),
  (0x85E, 0x85E, .right), (0x860, 0x86A, .right), (0x870, 0x88F, .right), (0x8A0, 0x8C9, .right),
  (0x9F2, 0x9F3, .neutral), (0x9FB, 0x9FB, .neutral), (0xAF1, 0xAF1, .neutral),
  (0xBF3, 0xBFA, .neutral), (0xC78, 0xC7E, .neutral), (0xE3F, 0xE3F, .neutral),
  (0xF3A, 0xF3D, .neutral), (0x1390, 0x1399, .neutral), (0x1400, 0x1400, .neutral),
  (0x169B, 0x169C, .neutral), (0x17DB, 0x17DB, .neutral), (0x17F0, 0x17F9, .neutral),
  (0x1800, 0x180A, .neutral), (0x1940, 0x1940, .neutral), (0x1944, 0x1945, .neutral),
  (0x19DE, 0x19FF, .neutral), (0x200C, 0x200D, .neutral), (0x2010, 0x2010, .neutral),
  (0x2012, 0x2016, .neutral), (0x2018, 0x2023, .neutral), (0x2027, 0x2027, .neutral),
  (0x2030, 0x2032, .neutral), (0x2035, 0x2035, .neutral), (0x2038, 0x203B, .neutral),
  (0x203D, 0x203D, .neutral), (0x203F, 0x2046, .neutral), (0x204A, 0x2056, .neutral),
  (0x2058, 0x205E, .neutral), (0x20A0, 0x20A7, .neutral), (0x20A9, 0x20C1, .neutral),
  (0x2104, 0x2104, .neutral), (0x2108, 0x2108, .neutral), (0x2114, 0x2114, .neutral),
  (0x2117, 0x2118, .neutral), (0x211E, 0x211F, .neutral), (0x2123, 0x2123, .neutral),
  (0x2125, 0x2125, .neutral), (0x2127, 0x2127, .neutral), (0x2129, 0x2129, .neutral),
  (0x212E, 0x212E, .neutral), (0x213A, 0x213A, .neutral), (0x2141, 0x2144, .neutral),
  (0x214A, 0x214D, .neutral), (0x218A, 0x218B, .neutral), (0x2190, 0x222B, .neutral),
  (0x222E, 0x222E, .neutral), (0x2231, 0x2328, .neutral), (0x232B, 0x2335, .neutral),
  (0x237B, 0x2394, .neutral), (0x2396, 0x2429, .neutral), (0x2440, 0x244A, .neutral),
  (0x24EB, 0x26AB, .neutral), (0x26AD, 0x27FF, .neutral), (0x2900, 0x2A0B, .neutral),
  (0x2A0D, 0x2A73, .neutral), (0x2A77, 0x2ADB, .neutral), (0x2ADD, 0x2B73, .neutral),
  (0x2B76, 0x2BFF, .neutral), (0x2CE5, 0x2CEA, .neutral), (0x2CF9, 0x2CFF, .neutral),
  (0x2E00, 0x2E5D, .neutral), (0x2E80, 0x2E99, .neutral), (0x2E9B, 0x2E9E, .neutral),
  (0x2EA0, 0x2EF2, .neutral), (0x3001, 0x3001, .neutral), (0x3003, 0x3004, .neutral),
  (0x3008, 0x3020, .neutral), (0x3030, 0x3030, .neutral), (0x3037, 0x3037, .neutral),
  (0x303D, 0x303F, .neutral), (0x30A0, 0x30A0, .neutral), (0x30FB, 0x30FB, .neutral),
  (0x31C0, 0x31E5, .neutral), (0x4DC0, 0x4DFF, .neutral), (0xA490, 0xA4C6, .neutral),
  (0xA60D, 0xA60F, .neutral), (0xA673, 0xA673, .neutral), (0xA67E, 0xA67F, .neutral),
  (0xA700, 0xA721, .neutral), (0xA788, 0xA788, .neutral), (0xA828, 0xA82B, .neutral),
  (0xA838, 0xA839, .neutral), (0xA874, 0xA877, .neutral), (0xAB6A, 0xAB6B, .neutral),
  (0xFBB2, 0xFBC2, .right), (0xFBC3, 0xFBD2, .neutral), (0xFD3E, 0xFD4F, .neutral),
  (0xFD90, 0xFD91, .neutral), (0xFDC8, 0xFDCF, .neutral), (0xFDFD, 0xFDFF, .neutral),
  (0xFE45, 0xFE46, .neutral), (0xFE73, 0xFE73, .right), (0x10101, 0x10101, .neutral),
  (0x10140, 0x1018C, .neutral), (0x10190, 0x1019C, .neutral), (0x101A0, 0x101A0, .neutral),
  (0x102E1, 0x102FB, .european), (0x10800, 0x10805, .right), (0x10808, 0x10808, .right),
  (0x1080A, 0x10835, .right), (0x10837, 0x10838, .right), (0x1083C, 0x1083C, .right),
  (0x1083F, 0x10855, .right), (0x10857, 0x1089E, .right), (0x108A7, 0x108AF, .right),
  (0x108E0, 0x108F2, .right), (0x108F4, 0x108F5, .right), (0x108FB, 0x1091B, .right),
  (0x1091F, 0x1091F, .neutral), (0x10920, 0x10939, .right), (0x1093F, 0x10959, .right),
  (0x10980, 0x109B7, .right), (0x109BC, 0x109CF, .right), (0x109D2, 0x10A00, .right),
  (0x10A10, 0x10A13, .right), (0x10A15, 0x10A17, .right), (0x10A19, 0x10A35, .right),
  (0x10A40, 0x10A48, .right), (0x10A50, 0x10A58, .right), (0x10A60, 0x10A9F, .right),
  (0x10AC0, 0x10AE4, .right), (0x10AEB, 0x10AF6, .right), (0x10B00, 0x10B35, .right),
  (0x10B39, 0x10B3F, .neutral), (0x10B40, 0x10B55, .right), (0x10B58, 0x10B72, .right),
  (0x10B78, 0x10B91, .right), (0x10B99, 0x10B9C, .right), (0x10BA9, 0x10BAF, .right),
  (0x10C00, 0x10C48, .right), (0x10CC0, 0x10CF2, .right), (0x10CFA, 0x10D23, .right),
  (0x10D30, 0x10D39, .arabicIndic), (0x10D40, 0x10D4F, .right), (0x10D6E, 0x10D6E, .neutral),
  (0x10D6F, 0x10D85, .right), (0x10D8E, 0x10D8F, .right), (0x10E60, 0x10E7E, .arabicIndic),
  (0x10E80, 0x10EA9, .right), (0x10EAD, 0x10EAD, .right), (0x10EB0, 0x10EB1, .right),
  (0x10EC2, 0x10EC7, .right), (0x10ED0, 0x10ED8, .neutral), (0x10F00, 0x10F27, .right),
  (0x10F30, 0x10F45, .right), (0x10F51, 0x10F59, .right), (0x10F70, 0x10F81, .right),
  (0x10F86, 0x10F89, .right), (0x10FB0, 0x10FCB, .right), (0x10FE0, 0x10FF6, .right),
  (0x11052, 0x11065, .neutral), (0x11660, 0x1166C, .neutral), (0x11FD5, 0x11FF1, .neutral),
  (0x16FE2, 0x16FE2, .neutral), (0x1CC00, 0x1CCD5, .neutral), (0x1CCFA, 0x1CCFC, .neutral),
  (0x1CD00, 0x1CEB3, .neutral), (0x1CEBA, 0x1CED0, .neutral), (0x1CEE0, 0x1CEF0, .neutral),
  (0x1D1E9, 0x1D1EA, .neutral), (0x1D200, 0x1D241, .neutral), (0x1D245, 0x1D245, .neutral),
  (0x1D300, 0x1D356, .neutral), (0x1E2FF, 0x1E2FF, .neutral), (0x1E800, 0x1E8C4, .right),
  (0x1E8C7, 0x1E8CF, .right), (0x1E922, 0x1E943, .right), (0x1E94B, 0x1E94B, .right),
  (0x1E950, 0x1E959, .right), (0x1E95E, 0x1E95F, .right), (0x1EC71, 0x1ECB4, .right),
  (0x1ED01, 0x1ED3D, .right), (0x1EEF0, 0x1EEF1, .neutral), (0x1F000, 0x1F02B, .neutral),
  (0x1F030, 0x1F093, .neutral), (0x1F0A0, 0x1F0AE, .neutral), (0x1F0B1, 0x1F0BF, .neutral),
  (0x1F0C1, 0x1F0CF, .neutral), (0x1F0D1, 0x1F0F5, .neutral), (0x1F10B, 0x1F10F, .neutral),
  (0x1F12F, 0x1F12F, .neutral), (0x1F16D, 0x1F16F, .neutral), (0x1F1AD, 0x1F1AD, .neutral),
  (0x1F260, 0x1F265, .neutral), (0x1F300, 0x1F6D8, .neutral), (0x1F6DC, 0x1F6EC, .neutral),
  (0x1F6F0, 0x1F6FC, .neutral), (0x1F700, 0x1F7D9, .neutral), (0x1F7E0, 0x1F7EB, .neutral),
  (0x1F7F0, 0x1F7F0, .neutral), (0x1F800, 0x1F80B, .neutral), (0x1F810, 0x1F847, .neutral),
  (0x1F850, 0x1F859, .neutral), (0x1F860, 0x1F887, .neutral), (0x1F890, 0x1F8AD, .neutral),
  (0x1F8B0, 0x1F8BB, .neutral), (0x1F8C0, 0x1F8C1, .neutral), (0x1F8D0, 0x1F8D8, .neutral),
  (0x1F900, 0x1FA57, .neutral), (0x1FA60, 0x1FA6D, .neutral), (0x1FA70, 0x1FA7C, .neutral),
  (0x1FA80, 0x1FA8A, .neutral), (0x1FA8E, 0x1FAC6, .neutral), (0x1FAC8, 0x1FAC8, .neutral),
  (0x1FACD, 0x1FADC, .neutral), (0x1FADF, 0x1FAEA, .neutral), (0x1FAEF, 0x1FAF8, .neutral),
  (0x1FB00, 0x1FB92, .neutral), (0x1FB94, 0x1FBEF, .neutral), (0x1FBFA, 0x1FBFA, .neutral)]

/-- Marks that run from left to right themselves. -/
def leftMarkRanges : List (Nat × Nat) := [
  (0xCBF, 0xCBF), (0xCC6, 0xCC6), (0x11A07, 0x11A08), (0x11C3F, 0x11C3F)]

/-- The direction of a character of ASCII. -/
def ofAscii (c : Char) : Direction :=
  if c.isAlpha then .left else if c.isDigit then .european else .neutral

/-- The direction of a character. -/
def of (c : Char) : Direction :=
  if c.toNat < 0x80 then ofAscii c
  else match classIn ranges c.toNat with
    | some d => d
    | none => if isNonspacingMark c && !inRanges leftMarkRanges c.toNat then .mark else .left

/-- A character that makes a domain one from right to left. -/
def isRight (d : Direction) : Bool := d == .right || d == .arabicIndic

/-- A label of characters, of which the first and the rest are given, may stand in a domain from right
to left. -/
def admits (first : Direction) (rest : List Direction) : Bool :=
  let rest := dropTrailing (· == .mark) rest
  let ends (ds : List Direction) : Bool := rest.getLast?.all ds.contains
  match first with
  | .left => ends [.left, .european] && !rest.any isRight
  | .right =>
    ends [.right, .european, .arabicIndic] && !rest.contains .left &&
      !(rest.contains .european && rest.contains .arabicIndic)
  | _ => false

/-- A label may stand in a domain from right to left. An empty one may. -/
def admitsLabel (label : List Char) : Bool :=
  match label.map of with
  | [] => true
  | first :: rest => admits first rest

end Direction

end LogVault.Url
