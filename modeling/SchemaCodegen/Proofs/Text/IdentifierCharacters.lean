import SchemaCodegen.Proofs.Text.CaseTables
import SchemaCodegen.Text.Alphanumeric

/-!
# Characters of identifiers

The Unicode standard has two properties for identifiers: `ID_Start` for the
characters that one may start with, `ID_Continue` for those that may follow.
Letters and numerals are other classes. Most letters may start an identifier,
but marks that belong to letters may only follow, and some numerals and letters
may not stand in an identifier at all. Those are listed here, and that the list
is complete is checked against the tables.

A check of whole tables takes the code points of a class as the bits of one
number, run by run.
-/

namespace SchemaCodegen.Text

/-- Code points with the property `ID_Start`. -/
def identifierStart : RunSet :=
  [⟨0x0041, 0x005A, 1⟩, ⟨0x0061, 0x007A, 1⟩, ⟨0x00AA, 0x00AA, 1⟩,
   ⟨0x00B5, 0x00B5, 1⟩, ⟨0x00BA, 0x00BA, 1⟩, ⟨0x00C0, 0x00D6, 1⟩,
   ⟨0x00D8, 0x00F6, 1⟩, ⟨0x00F8, 0x02C1, 1⟩, ⟨0x02C6, 0x02D1, 1⟩,
   ⟨0x02E0, 0x02E4, 1⟩, ⟨0x02EC, 0x02EC, 1⟩, ⟨0x02EE, 0x02EE, 1⟩,
   ⟨0x0370, 0x0374, 1⟩, ⟨0x0376, 0x0377, 1⟩, ⟨0x037A, 0x037D, 1⟩,
   ⟨0x037F, 0x037F, 1⟩, ⟨0x0386, 0x0386, 1⟩, ⟨0x0388, 0x038A, 1⟩,
   ⟨0x038C, 0x038C, 1⟩, ⟨0x038E, 0x03A1, 1⟩, ⟨0x03A3, 0x03F5, 1⟩,
   ⟨0x03F7, 0x0481, 1⟩, ⟨0x048A, 0x052F, 1⟩, ⟨0x0531, 0x0556, 1⟩,
   ⟨0x0559, 0x0559, 1⟩, ⟨0x0560, 0x0588, 1⟩, ⟨0x05D0, 0x05EA, 1⟩,
   ⟨0x05EF, 0x05F2, 1⟩, ⟨0x0620, 0x064A, 1⟩, ⟨0x066E, 0x066F, 1⟩,
   ⟨0x0671, 0x06D3, 1⟩, ⟨0x06D5, 0x06D5, 1⟩, ⟨0x06E5, 0x06E6, 1⟩,
   ⟨0x06EE, 0x06EF, 1⟩, ⟨0x06FA, 0x06FC, 1⟩, ⟨0x06FF, 0x06FF, 1⟩,
   ⟨0x0710, 0x0710, 1⟩, ⟨0x0712, 0x072F, 1⟩, ⟨0x074D, 0x07A5, 1⟩,
   ⟨0x07B1, 0x07B1, 1⟩, ⟨0x07CA, 0x07EA, 1⟩, ⟨0x07F4, 0x07F5, 1⟩,
   ⟨0x07FA, 0x07FA, 1⟩, ⟨0x0800, 0x0815, 1⟩, ⟨0x081A, 0x081A, 1⟩,
   ⟨0x0824, 0x0824, 1⟩, ⟨0x0828, 0x0828, 1⟩, ⟨0x0840, 0x0858, 1⟩,
   ⟨0x0860, 0x086A, 1⟩, ⟨0x0870, 0x0887, 1⟩, ⟨0x0889, 0x088F, 1⟩,
   ⟨0x08A0, 0x08C9, 1⟩, ⟨0x0904, 0x0939, 1⟩, ⟨0x093D, 0x093D, 1⟩,
   ⟨0x0950, 0x0950, 1⟩, ⟨0x0958, 0x0961, 1⟩, ⟨0x0971, 0x0980, 1⟩,
   ⟨0x0985, 0x098C, 1⟩, ⟨0x098F, 0x0990, 1⟩, ⟨0x0993, 0x09A8, 1⟩,
   ⟨0x09AA, 0x09B0, 1⟩, ⟨0x09B2, 0x09B2, 1⟩, ⟨0x09B6, 0x09B9, 1⟩,
   ⟨0x09BD, 0x09BD, 1⟩, ⟨0x09CE, 0x09CE, 1⟩, ⟨0x09DC, 0x09DD, 1⟩,
   ⟨0x09DF, 0x09E1, 1⟩, ⟨0x09F0, 0x09F1, 1⟩, ⟨0x09FC, 0x09FC, 1⟩,
   ⟨0x0A05, 0x0A0A, 1⟩, ⟨0x0A0F, 0x0A10, 1⟩, ⟨0x0A13, 0x0A28, 1⟩,
   ⟨0x0A2A, 0x0A30, 1⟩, ⟨0x0A32, 0x0A33, 1⟩, ⟨0x0A35, 0x0A36, 1⟩,
   ⟨0x0A38, 0x0A39, 1⟩, ⟨0x0A59, 0x0A5C, 1⟩, ⟨0x0A5E, 0x0A5E, 1⟩,
   ⟨0x0A72, 0x0A74, 1⟩, ⟨0x0A85, 0x0A8D, 1⟩, ⟨0x0A8F, 0x0A91, 1⟩,
   ⟨0x0A93, 0x0AA8, 1⟩, ⟨0x0AAA, 0x0AB0, 1⟩, ⟨0x0AB2, 0x0AB3, 1⟩,
   ⟨0x0AB5, 0x0AB9, 1⟩, ⟨0x0ABD, 0x0ABD, 1⟩, ⟨0x0AD0, 0x0AD0, 1⟩,
   ⟨0x0AE0, 0x0AE1, 1⟩, ⟨0x0AF9, 0x0AF9, 1⟩, ⟨0x0B05, 0x0B0C, 1⟩,
   ⟨0x0B0F, 0x0B10, 1⟩, ⟨0x0B13, 0x0B28, 1⟩, ⟨0x0B2A, 0x0B30, 1⟩,
   ⟨0x0B32, 0x0B33, 1⟩, ⟨0x0B35, 0x0B39, 1⟩, ⟨0x0B3D, 0x0B3D, 1⟩,
   ⟨0x0B5C, 0x0B5D, 1⟩, ⟨0x0B5F, 0x0B61, 1⟩, ⟨0x0B71, 0x0B71, 1⟩,
   ⟨0x0B83, 0x0B83, 1⟩, ⟨0x0B85, 0x0B8A, 1⟩, ⟨0x0B8E, 0x0B90, 1⟩,
   ⟨0x0B92, 0x0B95, 1⟩, ⟨0x0B99, 0x0B9A, 1⟩, ⟨0x0B9C, 0x0B9C, 1⟩,
   ⟨0x0B9E, 0x0B9F, 1⟩, ⟨0x0BA3, 0x0BA4, 1⟩, ⟨0x0BA8, 0x0BAA, 1⟩,
   ⟨0x0BAE, 0x0BB9, 1⟩, ⟨0x0BD0, 0x0BD0, 1⟩, ⟨0x0C05, 0x0C0C, 1⟩,
   ⟨0x0C0E, 0x0C10, 1⟩, ⟨0x0C12, 0x0C28, 1⟩, ⟨0x0C2A, 0x0C39, 1⟩,
   ⟨0x0C3D, 0x0C3D, 1⟩, ⟨0x0C58, 0x0C5A, 1⟩, ⟨0x0C5C, 0x0C5D, 1⟩,
   ⟨0x0C60, 0x0C61, 1⟩, ⟨0x0C80, 0x0C80, 1⟩, ⟨0x0C85, 0x0C8C, 1⟩,
   ⟨0x0C8E, 0x0C90, 1⟩, ⟨0x0C92, 0x0CA8, 1⟩, ⟨0x0CAA, 0x0CB3, 1⟩,
   ⟨0x0CB5, 0x0CB9, 1⟩, ⟨0x0CBD, 0x0CBD, 1⟩, ⟨0x0CDC, 0x0CDE, 1⟩,
   ⟨0x0CE0, 0x0CE1, 1⟩, ⟨0x0CF1, 0x0CF2, 1⟩, ⟨0x0D04, 0x0D0C, 1⟩,
   ⟨0x0D0E, 0x0D10, 1⟩, ⟨0x0D12, 0x0D3A, 1⟩, ⟨0x0D3D, 0x0D3D, 1⟩,
   ⟨0x0D4E, 0x0D4E, 1⟩, ⟨0x0D54, 0x0D56, 1⟩, ⟨0x0D5F, 0x0D61, 1⟩,
   ⟨0x0D7A, 0x0D7F, 1⟩, ⟨0x0D85, 0x0D96, 1⟩, ⟨0x0D9A, 0x0DB1, 1⟩,
   ⟨0x0DB3, 0x0DBB, 1⟩, ⟨0x0DBD, 0x0DBD, 1⟩, ⟨0x0DC0, 0x0DC6, 1⟩,
   ⟨0x0E01, 0x0E30, 1⟩, ⟨0x0E32, 0x0E33, 1⟩, ⟨0x0E40, 0x0E46, 1⟩,
   ⟨0x0E81, 0x0E82, 1⟩, ⟨0x0E84, 0x0E84, 1⟩, ⟨0x0E86, 0x0E8A, 1⟩,
   ⟨0x0E8C, 0x0EA3, 1⟩, ⟨0x0EA5, 0x0EA5, 1⟩, ⟨0x0EA7, 0x0EB0, 1⟩,
   ⟨0x0EB2, 0x0EB3, 1⟩, ⟨0x0EBD, 0x0EBD, 1⟩, ⟨0x0EC0, 0x0EC4, 1⟩,
   ⟨0x0EC6, 0x0EC6, 1⟩, ⟨0x0EDC, 0x0EDF, 1⟩, ⟨0x0F00, 0x0F00, 1⟩,
   ⟨0x0F40, 0x0F47, 1⟩, ⟨0x0F49, 0x0F6C, 1⟩, ⟨0x0F88, 0x0F8C, 1⟩,
   ⟨0x1000, 0x102A, 1⟩, ⟨0x103F, 0x103F, 1⟩, ⟨0x1050, 0x1055, 1⟩,
   ⟨0x105A, 0x105D, 1⟩, ⟨0x1061, 0x1061, 1⟩, ⟨0x1065, 0x1066, 1⟩,
   ⟨0x106E, 0x1070, 1⟩, ⟨0x1075, 0x1081, 1⟩, ⟨0x108E, 0x108E, 1⟩,
   ⟨0x10A0, 0x10C5, 1⟩, ⟨0x10C7, 0x10C7, 1⟩, ⟨0x10CD, 0x10CD, 1⟩,
   ⟨0x10D0, 0x10FA, 1⟩, ⟨0x10FC, 0x1248, 1⟩, ⟨0x124A, 0x124D, 1⟩,
   ⟨0x1250, 0x1256, 1⟩, ⟨0x1258, 0x1258, 1⟩, ⟨0x125A, 0x125D, 1⟩,
   ⟨0x1260, 0x1288, 1⟩, ⟨0x128A, 0x128D, 1⟩, ⟨0x1290, 0x12B0, 1⟩,
   ⟨0x12B2, 0x12B5, 1⟩, ⟨0x12B8, 0x12BE, 1⟩, ⟨0x12C0, 0x12C0, 1⟩,
   ⟨0x12C2, 0x12C5, 1⟩, ⟨0x12C8, 0x12D6, 1⟩, ⟨0x12D8, 0x1310, 1⟩,
   ⟨0x1312, 0x1315, 1⟩, ⟨0x1318, 0x135A, 1⟩, ⟨0x1380, 0x138F, 1⟩,
   ⟨0x13A0, 0x13F5, 1⟩, ⟨0x13F8, 0x13FD, 1⟩, ⟨0x1401, 0x166C, 1⟩,
   ⟨0x166F, 0x167F, 1⟩, ⟨0x1681, 0x169A, 1⟩, ⟨0x16A0, 0x16EA, 1⟩,
   ⟨0x16EE, 0x16F8, 1⟩, ⟨0x1700, 0x1711, 1⟩, ⟨0x171F, 0x1731, 1⟩,
   ⟨0x1740, 0x1751, 1⟩, ⟨0x1760, 0x176C, 1⟩, ⟨0x176E, 0x1770, 1⟩,
   ⟨0x1780, 0x17B3, 1⟩, ⟨0x17D7, 0x17D7, 1⟩, ⟨0x17DC, 0x17DC, 1⟩,
   ⟨0x1820, 0x1878, 1⟩, ⟨0x1880, 0x18A8, 1⟩, ⟨0x18AA, 0x18AA, 1⟩,
   ⟨0x18B0, 0x18F5, 1⟩, ⟨0x1900, 0x191E, 1⟩, ⟨0x1950, 0x196D, 1⟩,
   ⟨0x1970, 0x1974, 1⟩, ⟨0x1980, 0x19AB, 1⟩, ⟨0x19B0, 0x19C9, 1⟩,
   ⟨0x1A00, 0x1A16, 1⟩, ⟨0x1A20, 0x1A54, 1⟩, ⟨0x1AA7, 0x1AA7, 1⟩,
   ⟨0x1B05, 0x1B33, 1⟩, ⟨0x1B45, 0x1B4C, 1⟩, ⟨0x1B83, 0x1BA0, 1⟩,
   ⟨0x1BAE, 0x1BAF, 1⟩, ⟨0x1BBA, 0x1BE5, 1⟩, ⟨0x1C00, 0x1C23, 1⟩,
   ⟨0x1C4D, 0x1C4F, 1⟩, ⟨0x1C5A, 0x1C7D, 1⟩, ⟨0x1C80, 0x1C8A, 1⟩,
   ⟨0x1C90, 0x1CBA, 1⟩, ⟨0x1CBD, 0x1CBF, 1⟩, ⟨0x1CE9, 0x1CEC, 1⟩,
   ⟨0x1CEE, 0x1CF3, 1⟩, ⟨0x1CF5, 0x1CF6, 1⟩, ⟨0x1CFA, 0x1CFA, 1⟩,
   ⟨0x1D00, 0x1DBF, 1⟩, ⟨0x1E00, 0x1F15, 1⟩, ⟨0x1F18, 0x1F1D, 1⟩,
   ⟨0x1F20, 0x1F45, 1⟩, ⟨0x1F48, 0x1F4D, 1⟩, ⟨0x1F50, 0x1F57, 1⟩,
   ⟨0x1F59, 0x1F59, 1⟩, ⟨0x1F5B, 0x1F5B, 1⟩, ⟨0x1F5D, 0x1F5D, 1⟩,
   ⟨0x1F5F, 0x1F7D, 1⟩, ⟨0x1F80, 0x1FB4, 1⟩, ⟨0x1FB6, 0x1FBC, 1⟩,
   ⟨0x1FBE, 0x1FBE, 1⟩, ⟨0x1FC2, 0x1FC4, 1⟩, ⟨0x1FC6, 0x1FCC, 1⟩,
   ⟨0x1FD0, 0x1FD3, 1⟩, ⟨0x1FD6, 0x1FDB, 1⟩, ⟨0x1FE0, 0x1FEC, 1⟩,
   ⟨0x1FF2, 0x1FF4, 1⟩, ⟨0x1FF6, 0x1FFC, 1⟩, ⟨0x2071, 0x2071, 1⟩,
   ⟨0x207F, 0x207F, 1⟩, ⟨0x2090, 0x209C, 1⟩, ⟨0x2102, 0x2102, 1⟩,
   ⟨0x2107, 0x2107, 1⟩, ⟨0x210A, 0x2113, 1⟩, ⟨0x2115, 0x2115, 1⟩,
   ⟨0x2118, 0x211D, 1⟩, ⟨0x2124, 0x2124, 1⟩, ⟨0x2126, 0x2126, 1⟩,
   ⟨0x2128, 0x2128, 1⟩, ⟨0x212A, 0x2139, 1⟩, ⟨0x213C, 0x213F, 1⟩,
   ⟨0x2145, 0x2149, 1⟩, ⟨0x214E, 0x214E, 1⟩, ⟨0x2160, 0x2188, 1⟩,
   ⟨0x2C00, 0x2CE4, 1⟩, ⟨0x2CEB, 0x2CEE, 1⟩, ⟨0x2CF2, 0x2CF3, 1⟩,
   ⟨0x2D00, 0x2D25, 1⟩, ⟨0x2D27, 0x2D27, 1⟩, ⟨0x2D2D, 0x2D2D, 1⟩,
   ⟨0x2D30, 0x2D67, 1⟩, ⟨0x2D6F, 0x2D6F, 1⟩, ⟨0x2D80, 0x2D96, 1⟩,
   ⟨0x2DA0, 0x2DA6, 1⟩, ⟨0x2DA8, 0x2DAE, 1⟩, ⟨0x2DB0, 0x2DB6, 1⟩,
   ⟨0x2DB8, 0x2DBE, 1⟩, ⟨0x2DC0, 0x2DC6, 1⟩, ⟨0x2DC8, 0x2DCE, 1⟩,
   ⟨0x2DD0, 0x2DD6, 1⟩, ⟨0x2DD8, 0x2DDE, 1⟩, ⟨0x3005, 0x3007, 1⟩,
   ⟨0x3021, 0x3029, 1⟩, ⟨0x3031, 0x3035, 1⟩, ⟨0x3038, 0x303C, 1⟩,
   ⟨0x3041, 0x3096, 1⟩, ⟨0x309B, 0x309F, 1⟩, ⟨0x30A1, 0x30FA, 1⟩,
   ⟨0x30FC, 0x30FF, 1⟩, ⟨0x3105, 0x312F, 1⟩, ⟨0x3131, 0x318E, 1⟩,
   ⟨0x31A0, 0x31BF, 1⟩, ⟨0x31F0, 0x31FF, 1⟩, ⟨0x3400, 0x4DBF, 1⟩,
   ⟨0x4E00, 0xA48C, 1⟩, ⟨0xA4D0, 0xA4FD, 1⟩, ⟨0xA500, 0xA60C, 1⟩,
   ⟨0xA610, 0xA61F, 1⟩, ⟨0xA62A, 0xA62B, 1⟩, ⟨0xA640, 0xA66E, 1⟩,
   ⟨0xA67F, 0xA69D, 1⟩, ⟨0xA6A0, 0xA6EF, 1⟩, ⟨0xA717, 0xA71F, 1⟩,
   ⟨0xA722, 0xA788, 1⟩, ⟨0xA78B, 0xA7DC, 1⟩, ⟨0xA7F1, 0xA801, 1⟩,
   ⟨0xA803, 0xA805, 1⟩, ⟨0xA807, 0xA80A, 1⟩, ⟨0xA80C, 0xA822, 1⟩,
   ⟨0xA840, 0xA873, 1⟩, ⟨0xA882, 0xA8B3, 1⟩, ⟨0xA8F2, 0xA8F7, 1⟩,
   ⟨0xA8FB, 0xA8FB, 1⟩, ⟨0xA8FD, 0xA8FE, 1⟩, ⟨0xA90A, 0xA925, 1⟩,
   ⟨0xA930, 0xA946, 1⟩, ⟨0xA960, 0xA97C, 1⟩, ⟨0xA984, 0xA9B2, 1⟩,
   ⟨0xA9CF, 0xA9CF, 1⟩, ⟨0xA9E0, 0xA9E4, 1⟩, ⟨0xA9E6, 0xA9EF, 1⟩,
   ⟨0xA9FA, 0xA9FE, 1⟩, ⟨0xAA00, 0xAA28, 1⟩, ⟨0xAA40, 0xAA42, 1⟩,
   ⟨0xAA44, 0xAA4B, 1⟩, ⟨0xAA60, 0xAA76, 1⟩, ⟨0xAA7A, 0xAA7A, 1⟩,
   ⟨0xAA7E, 0xAAAF, 1⟩, ⟨0xAAB1, 0xAAB1, 1⟩, ⟨0xAAB5, 0xAAB6, 1⟩,
   ⟨0xAAB9, 0xAABD, 1⟩, ⟨0xAAC0, 0xAAC0, 1⟩, ⟨0xAAC2, 0xAAC2, 1⟩,
   ⟨0xAADB, 0xAADD, 1⟩, ⟨0xAAE0, 0xAAEA, 1⟩, ⟨0xAAF2, 0xAAF4, 1⟩,
   ⟨0xAB01, 0xAB06, 1⟩, ⟨0xAB09, 0xAB0E, 1⟩, ⟨0xAB11, 0xAB16, 1⟩,
   ⟨0xAB20, 0xAB26, 1⟩, ⟨0xAB28, 0xAB2E, 1⟩, ⟨0xAB30, 0xAB5A, 1⟩,
   ⟨0xAB5C, 0xAB69, 1⟩, ⟨0xAB70, 0xABE2, 1⟩, ⟨0xAC00, 0xD7A3, 1⟩,
   ⟨0xD7B0, 0xD7C6, 1⟩, ⟨0xD7CB, 0xD7FB, 1⟩, ⟨0xF900, 0xFA6D, 1⟩,
   ⟨0xFA70, 0xFAD9, 1⟩, ⟨0xFB00, 0xFB06, 1⟩, ⟨0xFB13, 0xFB17, 1⟩,
   ⟨0xFB1D, 0xFB1D, 1⟩, ⟨0xFB1F, 0xFB28, 1⟩, ⟨0xFB2A, 0xFB36, 1⟩,
   ⟨0xFB38, 0xFB3C, 1⟩, ⟨0xFB3E, 0xFB3E, 1⟩, ⟨0xFB40, 0xFB41, 1⟩,
   ⟨0xFB43, 0xFB44, 1⟩, ⟨0xFB46, 0xFBB1, 1⟩, ⟨0xFBD3, 0xFD3D, 1⟩,
   ⟨0xFD50, 0xFD8F, 1⟩, ⟨0xFD92, 0xFDC7, 1⟩, ⟨0xFDF0, 0xFDFB, 1⟩,
   ⟨0xFE70, 0xFE74, 1⟩, ⟨0xFE76, 0xFEFC, 1⟩, ⟨0xFF21, 0xFF3A, 1⟩,
   ⟨0xFF41, 0xFF5A, 1⟩, ⟨0xFF66, 0xFFBE, 1⟩, ⟨0xFFC2, 0xFFC7, 1⟩,
   ⟨0xFFCA, 0xFFCF, 1⟩, ⟨0xFFD2, 0xFFD7, 1⟩, ⟨0xFFDA, 0xFFDC, 1⟩,
   ⟨0x10000, 0x1000B, 1⟩, ⟨0x1000D, 0x10026, 1⟩, ⟨0x10028, 0x1003A, 1⟩,
   ⟨0x1003C, 0x1003D, 1⟩, ⟨0x1003F, 0x1004D, 1⟩, ⟨0x10050, 0x1005D, 1⟩,
   ⟨0x10080, 0x100FA, 1⟩, ⟨0x10140, 0x10174, 1⟩, ⟨0x10280, 0x1029C, 1⟩,
   ⟨0x102A0, 0x102D0, 1⟩, ⟨0x10300, 0x1031F, 1⟩, ⟨0x1032D, 0x1034A, 1⟩,
   ⟨0x10350, 0x10375, 1⟩, ⟨0x10380, 0x1039D, 1⟩, ⟨0x103A0, 0x103C3, 1⟩,
   ⟨0x103C8, 0x103CF, 1⟩, ⟨0x103D1, 0x103D5, 1⟩, ⟨0x10400, 0x1049D, 1⟩,
   ⟨0x104B0, 0x104D3, 1⟩, ⟨0x104D8, 0x104FB, 1⟩, ⟨0x10500, 0x10527, 1⟩,
   ⟨0x10530, 0x10563, 1⟩, ⟨0x10570, 0x1057A, 1⟩, ⟨0x1057C, 0x1058A, 1⟩,
   ⟨0x1058C, 0x10592, 1⟩, ⟨0x10594, 0x10595, 1⟩, ⟨0x10597, 0x105A1, 1⟩,
   ⟨0x105A3, 0x105B1, 1⟩, ⟨0x105B3, 0x105B9, 1⟩, ⟨0x105BB, 0x105BC, 1⟩,
   ⟨0x105C0, 0x105F3, 1⟩, ⟨0x10600, 0x10736, 1⟩, ⟨0x10740, 0x10755, 1⟩,
   ⟨0x10760, 0x10767, 1⟩, ⟨0x10780, 0x10785, 1⟩, ⟨0x10787, 0x107B0, 1⟩,
   ⟨0x107B2, 0x107BA, 1⟩, ⟨0x10800, 0x10805, 1⟩, ⟨0x10808, 0x10808, 1⟩,
   ⟨0x1080A, 0x10835, 1⟩, ⟨0x10837, 0x10838, 1⟩, ⟨0x1083C, 0x1083C, 1⟩,
   ⟨0x1083F, 0x10855, 1⟩, ⟨0x10860, 0x10876, 1⟩, ⟨0x10880, 0x1089E, 1⟩,
   ⟨0x108E0, 0x108F2, 1⟩, ⟨0x108F4, 0x108F5, 1⟩, ⟨0x10900, 0x10915, 1⟩,
   ⟨0x10920, 0x10939, 1⟩, ⟨0x10940, 0x10959, 1⟩, ⟨0x10980, 0x109B7, 1⟩,
   ⟨0x109BE, 0x109BF, 1⟩, ⟨0x10A00, 0x10A00, 1⟩, ⟨0x10A10, 0x10A13, 1⟩,
   ⟨0x10A15, 0x10A17, 1⟩, ⟨0x10A19, 0x10A35, 1⟩, ⟨0x10A60, 0x10A7C, 1⟩,
   ⟨0x10A80, 0x10A9C, 1⟩, ⟨0x10AC0, 0x10AC7, 1⟩, ⟨0x10AC9, 0x10AE4, 1⟩,
   ⟨0x10B00, 0x10B35, 1⟩, ⟨0x10B40, 0x10B55, 1⟩, ⟨0x10B60, 0x10B72, 1⟩,
   ⟨0x10B80, 0x10B91, 1⟩, ⟨0x10C00, 0x10C48, 1⟩, ⟨0x10C80, 0x10CB2, 1⟩,
   ⟨0x10CC0, 0x10CF2, 1⟩, ⟨0x10D00, 0x10D23, 1⟩, ⟨0x10D4A, 0x10D65, 1⟩,
   ⟨0x10D6F, 0x10D85, 1⟩, ⟨0x10E80, 0x10EA9, 1⟩, ⟨0x10EB0, 0x10EB1, 1⟩,
   ⟨0x10EC2, 0x10EC7, 1⟩, ⟨0x10F00, 0x10F1C, 1⟩, ⟨0x10F27, 0x10F27, 1⟩,
   ⟨0x10F30, 0x10F45, 1⟩, ⟨0x10F70, 0x10F81, 1⟩, ⟨0x10FB0, 0x10FC4, 1⟩,
   ⟨0x10FE0, 0x10FF6, 1⟩, ⟨0x11003, 0x11037, 1⟩, ⟨0x11071, 0x11072, 1⟩,
   ⟨0x11075, 0x11075, 1⟩, ⟨0x11083, 0x110AF, 1⟩, ⟨0x110D0, 0x110E8, 1⟩,
   ⟨0x11103, 0x11126, 1⟩, ⟨0x11144, 0x11144, 1⟩, ⟨0x11147, 0x11147, 1⟩,
   ⟨0x11150, 0x11172, 1⟩, ⟨0x11176, 0x11176, 1⟩, ⟨0x11183, 0x111B2, 1⟩,
   ⟨0x111C1, 0x111C4, 1⟩, ⟨0x111DA, 0x111DA, 1⟩, ⟨0x111DC, 0x111DC, 1⟩,
   ⟨0x11200, 0x11211, 1⟩, ⟨0x11213, 0x1122B, 1⟩, ⟨0x1123F, 0x11240, 1⟩,
   ⟨0x11280, 0x11286, 1⟩, ⟨0x11288, 0x11288, 1⟩, ⟨0x1128A, 0x1128D, 1⟩,
   ⟨0x1128F, 0x1129D, 1⟩, ⟨0x1129F, 0x112A8, 1⟩, ⟨0x112B0, 0x112DE, 1⟩,
   ⟨0x11305, 0x1130C, 1⟩, ⟨0x1130F, 0x11310, 1⟩, ⟨0x11313, 0x11328, 1⟩,
   ⟨0x1132A, 0x11330, 1⟩, ⟨0x11332, 0x11333, 1⟩, ⟨0x11335, 0x11339, 1⟩,
   ⟨0x1133D, 0x1133D, 1⟩, ⟨0x11350, 0x11350, 1⟩, ⟨0x1135D, 0x11361, 1⟩,
   ⟨0x11380, 0x11389, 1⟩, ⟨0x1138B, 0x1138B, 1⟩, ⟨0x1138E, 0x1138E, 1⟩,
   ⟨0x11390, 0x113B5, 1⟩, ⟨0x113B7, 0x113B7, 1⟩, ⟨0x113D1, 0x113D1, 1⟩,
   ⟨0x113D3, 0x113D3, 1⟩, ⟨0x11400, 0x11434, 1⟩, ⟨0x11447, 0x1144A, 1⟩,
   ⟨0x1145F, 0x11461, 1⟩, ⟨0x11480, 0x114AF, 1⟩, ⟨0x114C4, 0x114C5, 1⟩,
   ⟨0x114C7, 0x114C7, 1⟩, ⟨0x11580, 0x115AE, 1⟩, ⟨0x115D8, 0x115DB, 1⟩,
   ⟨0x11600, 0x1162F, 1⟩, ⟨0x11644, 0x11644, 1⟩, ⟨0x11680, 0x116AA, 1⟩,
   ⟨0x116B8, 0x116B8, 1⟩, ⟨0x11700, 0x1171A, 1⟩, ⟨0x11740, 0x11746, 1⟩,
   ⟨0x11800, 0x1182B, 1⟩, ⟨0x118A0, 0x118DF, 1⟩, ⟨0x118FF, 0x11906, 1⟩,
   ⟨0x11909, 0x11909, 1⟩, ⟨0x1190C, 0x11913, 1⟩, ⟨0x11915, 0x11916, 1⟩,
   ⟨0x11918, 0x1192F, 1⟩, ⟨0x1193F, 0x1193F, 1⟩, ⟨0x11941, 0x11941, 1⟩,
   ⟨0x119A0, 0x119A7, 1⟩, ⟨0x119AA, 0x119D0, 1⟩, ⟨0x119E1, 0x119E1, 1⟩,
   ⟨0x119E3, 0x119E3, 1⟩, ⟨0x11A00, 0x11A00, 1⟩, ⟨0x11A0B, 0x11A32, 1⟩,
   ⟨0x11A3A, 0x11A3A, 1⟩, ⟨0x11A50, 0x11A50, 1⟩, ⟨0x11A5C, 0x11A89, 1⟩,
   ⟨0x11A9D, 0x11A9D, 1⟩, ⟨0x11AB0, 0x11AF8, 1⟩, ⟨0x11BC0, 0x11BE0, 1⟩,
   ⟨0x11C00, 0x11C08, 1⟩, ⟨0x11C0A, 0x11C2E, 1⟩, ⟨0x11C40, 0x11C40, 1⟩,
   ⟨0x11C72, 0x11C8F, 1⟩, ⟨0x11D00, 0x11D06, 1⟩, ⟨0x11D08, 0x11D09, 1⟩,
   ⟨0x11D0B, 0x11D30, 1⟩, ⟨0x11D46, 0x11D46, 1⟩, ⟨0x11D60, 0x11D65, 1⟩,
   ⟨0x11D67, 0x11D68, 1⟩, ⟨0x11D6A, 0x11D89, 1⟩, ⟨0x11D98, 0x11D98, 1⟩,
   ⟨0x11DB0, 0x11DDB, 1⟩, ⟨0x11EE0, 0x11EF2, 1⟩, ⟨0x11F02, 0x11F02, 1⟩,
   ⟨0x11F04, 0x11F10, 1⟩, ⟨0x11F12, 0x11F33, 1⟩, ⟨0x11FB0, 0x11FB0, 1⟩,
   ⟨0x12000, 0x12399, 1⟩, ⟨0x12400, 0x1246E, 1⟩, ⟨0x12480, 0x12543, 1⟩,
   ⟨0x12F90, 0x12FF0, 1⟩, ⟨0x13000, 0x1342F, 1⟩, ⟨0x13441, 0x13446, 1⟩,
   ⟨0x13460, 0x143FA, 1⟩, ⟨0x14400, 0x14646, 1⟩, ⟨0x16100, 0x1611D, 1⟩,
   ⟨0x16800, 0x16A38, 1⟩, ⟨0x16A40, 0x16A5E, 1⟩, ⟨0x16A70, 0x16ABE, 1⟩,
   ⟨0x16AD0, 0x16AED, 1⟩, ⟨0x16B00, 0x16B2F, 1⟩, ⟨0x16B40, 0x16B43, 1⟩,
   ⟨0x16B63, 0x16B77, 1⟩, ⟨0x16B7D, 0x16B8F, 1⟩, ⟨0x16D40, 0x16D6C, 1⟩,
   ⟨0x16E40, 0x16E7F, 1⟩, ⟨0x16EA0, 0x16EB8, 1⟩, ⟨0x16EBB, 0x16ED3, 1⟩,
   ⟨0x16F00, 0x16F4A, 1⟩, ⟨0x16F50, 0x16F50, 1⟩, ⟨0x16F93, 0x16F9F, 1⟩,
   ⟨0x16FE0, 0x16FE1, 1⟩, ⟨0x16FE3, 0x16FE3, 1⟩, ⟨0x16FF2, 0x16FF6, 1⟩,
   ⟨0x17000, 0x18CD5, 1⟩, ⟨0x18CFF, 0x18D1E, 1⟩, ⟨0x18D80, 0x18DF2, 1⟩,
   ⟨0x1AFF0, 0x1AFF3, 1⟩, ⟨0x1AFF5, 0x1AFFB, 1⟩, ⟨0x1AFFD, 0x1AFFE, 1⟩,
   ⟨0x1B000, 0x1B122, 1⟩, ⟨0x1B132, 0x1B132, 1⟩, ⟨0x1B150, 0x1B152, 1⟩,
   ⟨0x1B155, 0x1B155, 1⟩, ⟨0x1B164, 0x1B167, 1⟩, ⟨0x1B170, 0x1B2FB, 1⟩,
   ⟨0x1BC00, 0x1BC6A, 1⟩, ⟨0x1BC70, 0x1BC7C, 1⟩, ⟨0x1BC80, 0x1BC88, 1⟩,
   ⟨0x1BC90, 0x1BC99, 1⟩, ⟨0x1D400, 0x1D454, 1⟩, ⟨0x1D456, 0x1D49C, 1⟩,
   ⟨0x1D49E, 0x1D49F, 1⟩, ⟨0x1D4A2, 0x1D4A2, 1⟩, ⟨0x1D4A5, 0x1D4A6, 1⟩,
   ⟨0x1D4A9, 0x1D4AC, 1⟩, ⟨0x1D4AE, 0x1D4B9, 1⟩, ⟨0x1D4BB, 0x1D4BB, 1⟩,
   ⟨0x1D4BD, 0x1D4C3, 1⟩, ⟨0x1D4C5, 0x1D505, 1⟩, ⟨0x1D507, 0x1D50A, 1⟩,
   ⟨0x1D50D, 0x1D514, 1⟩, ⟨0x1D516, 0x1D51C, 1⟩, ⟨0x1D51E, 0x1D539, 1⟩,
   ⟨0x1D53B, 0x1D53E, 1⟩, ⟨0x1D540, 0x1D544, 1⟩, ⟨0x1D546, 0x1D546, 1⟩,
   ⟨0x1D54A, 0x1D550, 1⟩, ⟨0x1D552, 0x1D6A5, 1⟩, ⟨0x1D6A8, 0x1D6C0, 1⟩,
   ⟨0x1D6C2, 0x1D6DA, 1⟩, ⟨0x1D6DC, 0x1D6FA, 1⟩, ⟨0x1D6FC, 0x1D714, 1⟩,
   ⟨0x1D716, 0x1D734, 1⟩, ⟨0x1D736, 0x1D74E, 1⟩, ⟨0x1D750, 0x1D76E, 1⟩,
   ⟨0x1D770, 0x1D788, 1⟩, ⟨0x1D78A, 0x1D7A8, 1⟩, ⟨0x1D7AA, 0x1D7C2, 1⟩,
   ⟨0x1D7C4, 0x1D7CB, 1⟩, ⟨0x1DF00, 0x1DF1E, 1⟩, ⟨0x1DF25, 0x1DF2A, 1⟩,
   ⟨0x1E030, 0x1E06D, 1⟩, ⟨0x1E100, 0x1E12C, 1⟩, ⟨0x1E137, 0x1E13D, 1⟩,
   ⟨0x1E14E, 0x1E14E, 1⟩, ⟨0x1E290, 0x1E2AD, 1⟩, ⟨0x1E2C0, 0x1E2EB, 1⟩,
   ⟨0x1E4D0, 0x1E4EB, 1⟩, ⟨0x1E5D0, 0x1E5ED, 1⟩, ⟨0x1E5F0, 0x1E5F0, 1⟩,
   ⟨0x1E6C0, 0x1E6DE, 1⟩, ⟨0x1E6E0, 0x1E6E2, 1⟩, ⟨0x1E6E4, 0x1E6E5, 1⟩,
   ⟨0x1E6E7, 0x1E6ED, 1⟩, ⟨0x1E6F0, 0x1E6F4, 1⟩, ⟨0x1E6FE, 0x1E6FF, 1⟩,
   ⟨0x1E7E0, 0x1E7E6, 1⟩, ⟨0x1E7E8, 0x1E7EB, 1⟩, ⟨0x1E7ED, 0x1E7EE, 1⟩,
   ⟨0x1E7F0, 0x1E7FE, 1⟩, ⟨0x1E800, 0x1E8C4, 1⟩, ⟨0x1E900, 0x1E943, 1⟩,
   ⟨0x1E94B, 0x1E94B, 1⟩, ⟨0x1EE00, 0x1EE03, 1⟩, ⟨0x1EE05, 0x1EE1F, 1⟩,
   ⟨0x1EE21, 0x1EE22, 1⟩, ⟨0x1EE24, 0x1EE24, 1⟩, ⟨0x1EE27, 0x1EE27, 1⟩,
   ⟨0x1EE29, 0x1EE32, 1⟩, ⟨0x1EE34, 0x1EE37, 1⟩, ⟨0x1EE39, 0x1EE39, 1⟩,
   ⟨0x1EE3B, 0x1EE3B, 1⟩, ⟨0x1EE42, 0x1EE42, 1⟩, ⟨0x1EE47, 0x1EE47, 1⟩,
   ⟨0x1EE49, 0x1EE49, 1⟩, ⟨0x1EE4B, 0x1EE4B, 1⟩, ⟨0x1EE4D, 0x1EE4F, 1⟩,
   ⟨0x1EE51, 0x1EE52, 1⟩, ⟨0x1EE54, 0x1EE54, 1⟩, ⟨0x1EE57, 0x1EE57, 1⟩,
   ⟨0x1EE59, 0x1EE59, 1⟩, ⟨0x1EE5B, 0x1EE5B, 1⟩, ⟨0x1EE5D, 0x1EE5D, 1⟩,
   ⟨0x1EE5F, 0x1EE5F, 1⟩, ⟨0x1EE61, 0x1EE62, 1⟩, ⟨0x1EE64, 0x1EE64, 1⟩,
   ⟨0x1EE67, 0x1EE6A, 1⟩, ⟨0x1EE6C, 0x1EE72, 1⟩, ⟨0x1EE74, 0x1EE77, 1⟩,
   ⟨0x1EE79, 0x1EE7C, 1⟩, ⟨0x1EE7E, 0x1EE7E, 1⟩, ⟨0x1EE80, 0x1EE89, 1⟩,
   ⟨0x1EE8B, 0x1EE9B, 1⟩, ⟨0x1EEA1, 0x1EEA3, 1⟩, ⟨0x1EEA5, 0x1EEA9, 1⟩,
   ⟨0x1EEAB, 0x1EEBB, 1⟩, ⟨0x20000, 0x2A6DF, 1⟩, ⟨0x2A700, 0x2B81D, 1⟩,
   ⟨0x2B820, 0x2CEAD, 1⟩, ⟨0x2CEB0, 0x2EBE0, 1⟩, ⟨0x2EBF0, 0x2EE5D, 1⟩,
   ⟨0x2F800, 0x2FA1D, 1⟩, ⟨0x30000, 0x3134A, 1⟩, ⟨0x31350, 0x33479, 1⟩]

/-- Code points with the property `ID_Continue` but without `ID_Start`: digits, marks of
scripts, the underscore and other connectors, and the two zero-width joiners. -/
def identifierMark : RunSet :=
  [⟨0x0030, 0x0039, 1⟩, ⟨0x005F, 0x005F, 1⟩, ⟨0x00B7, 0x00B7, 1⟩,
   ⟨0x0300, 0x036F, 1⟩, ⟨0x0387, 0x0387, 1⟩, ⟨0x0483, 0x0487, 1⟩,
   ⟨0x0591, 0x05BD, 1⟩, ⟨0x05BF, 0x05BF, 1⟩, ⟨0x05C1, 0x05C2, 1⟩,
   ⟨0x05C4, 0x05C5, 1⟩, ⟨0x05C7, 0x05C7, 1⟩, ⟨0x0610, 0x061A, 1⟩,
   ⟨0x064B, 0x0669, 1⟩, ⟨0x0670, 0x0670, 1⟩, ⟨0x06D6, 0x06DC, 1⟩,
   ⟨0x06DF, 0x06E4, 1⟩, ⟨0x06E7, 0x06E8, 1⟩, ⟨0x06EA, 0x06ED, 1⟩,
   ⟨0x06F0, 0x06F9, 1⟩, ⟨0x0711, 0x0711, 1⟩, ⟨0x0730, 0x074A, 1⟩,
   ⟨0x07A6, 0x07B0, 1⟩, ⟨0x07C0, 0x07C9, 1⟩, ⟨0x07EB, 0x07F3, 1⟩,
   ⟨0x07FD, 0x07FD, 1⟩, ⟨0x0816, 0x0819, 1⟩, ⟨0x081B, 0x0823, 1⟩,
   ⟨0x0825, 0x0827, 1⟩, ⟨0x0829, 0x082D, 1⟩, ⟨0x0859, 0x085B, 1⟩,
   ⟨0x0897, 0x089F, 1⟩, ⟨0x08CA, 0x08E1, 1⟩, ⟨0x08E3, 0x0903, 1⟩,
   ⟨0x093A, 0x093C, 1⟩, ⟨0x093E, 0x094F, 1⟩, ⟨0x0951, 0x0957, 1⟩,
   ⟨0x0962, 0x0963, 1⟩, ⟨0x0966, 0x096F, 1⟩, ⟨0x0981, 0x0983, 1⟩,
   ⟨0x09BC, 0x09BC, 1⟩, ⟨0x09BE, 0x09C4, 1⟩, ⟨0x09C7, 0x09C8, 1⟩,
   ⟨0x09CB, 0x09CD, 1⟩, ⟨0x09D7, 0x09D7, 1⟩, ⟨0x09E2, 0x09E3, 1⟩,
   ⟨0x09E6, 0x09EF, 1⟩, ⟨0x09FE, 0x09FE, 1⟩, ⟨0x0A01, 0x0A03, 1⟩,
   ⟨0x0A3C, 0x0A3C, 1⟩, ⟨0x0A3E, 0x0A42, 1⟩, ⟨0x0A47, 0x0A48, 1⟩,
   ⟨0x0A4B, 0x0A4D, 1⟩, ⟨0x0A51, 0x0A51, 1⟩, ⟨0x0A66, 0x0A71, 1⟩,
   ⟨0x0A75, 0x0A75, 1⟩, ⟨0x0A81, 0x0A83, 1⟩, ⟨0x0ABC, 0x0ABC, 1⟩,
   ⟨0x0ABE, 0x0AC5, 1⟩, ⟨0x0AC7, 0x0AC9, 1⟩, ⟨0x0ACB, 0x0ACD, 1⟩,
   ⟨0x0AE2, 0x0AE3, 1⟩, ⟨0x0AE6, 0x0AEF, 1⟩, ⟨0x0AFA, 0x0AFF, 1⟩,
   ⟨0x0B01, 0x0B03, 1⟩, ⟨0x0B3C, 0x0B3C, 1⟩, ⟨0x0B3E, 0x0B44, 1⟩,
   ⟨0x0B47, 0x0B48, 1⟩, ⟨0x0B4B, 0x0B4D, 1⟩, ⟨0x0B55, 0x0B57, 1⟩,
   ⟨0x0B62, 0x0B63, 1⟩, ⟨0x0B66, 0x0B6F, 1⟩, ⟨0x0B82, 0x0B82, 1⟩,
   ⟨0x0BBE, 0x0BC2, 1⟩, ⟨0x0BC6, 0x0BC8, 1⟩, ⟨0x0BCA, 0x0BCD, 1⟩,
   ⟨0x0BD7, 0x0BD7, 1⟩, ⟨0x0BE6, 0x0BEF, 1⟩, ⟨0x0C00, 0x0C04, 1⟩,
   ⟨0x0C3C, 0x0C3C, 1⟩, ⟨0x0C3E, 0x0C44, 1⟩, ⟨0x0C46, 0x0C48, 1⟩,
   ⟨0x0C4A, 0x0C4D, 1⟩, ⟨0x0C55, 0x0C56, 1⟩, ⟨0x0C62, 0x0C63, 1⟩,
   ⟨0x0C66, 0x0C6F, 1⟩, ⟨0x0C81, 0x0C83, 1⟩, ⟨0x0CBC, 0x0CBC, 1⟩,
   ⟨0x0CBE, 0x0CC4, 1⟩, ⟨0x0CC6, 0x0CC8, 1⟩, ⟨0x0CCA, 0x0CCD, 1⟩,
   ⟨0x0CD5, 0x0CD6, 1⟩, ⟨0x0CE2, 0x0CE3, 1⟩, ⟨0x0CE6, 0x0CEF, 1⟩,
   ⟨0x0CF3, 0x0CF3, 1⟩, ⟨0x0D00, 0x0D03, 1⟩, ⟨0x0D3B, 0x0D3C, 1⟩,
   ⟨0x0D3E, 0x0D44, 1⟩, ⟨0x0D46, 0x0D48, 1⟩, ⟨0x0D4A, 0x0D4D, 1⟩,
   ⟨0x0D57, 0x0D57, 1⟩, ⟨0x0D62, 0x0D63, 1⟩, ⟨0x0D66, 0x0D6F, 1⟩,
   ⟨0x0D81, 0x0D83, 1⟩, ⟨0x0DCA, 0x0DCA, 1⟩, ⟨0x0DCF, 0x0DD4, 1⟩,
   ⟨0x0DD6, 0x0DD6, 1⟩, ⟨0x0DD8, 0x0DDF, 1⟩, ⟨0x0DE6, 0x0DEF, 1⟩,
   ⟨0x0DF2, 0x0DF3, 1⟩, ⟨0x0E31, 0x0E31, 1⟩, ⟨0x0E34, 0x0E3A, 1⟩,
   ⟨0x0E47, 0x0E4E, 1⟩, ⟨0x0E50, 0x0E59, 1⟩, ⟨0x0EB1, 0x0EB1, 1⟩,
   ⟨0x0EB4, 0x0EBC, 1⟩, ⟨0x0EC8, 0x0ECE, 1⟩, ⟨0x0ED0, 0x0ED9, 1⟩,
   ⟨0x0F18, 0x0F19, 1⟩, ⟨0x0F20, 0x0F29, 1⟩, ⟨0x0F35, 0x0F35, 1⟩,
   ⟨0x0F37, 0x0F37, 1⟩, ⟨0x0F39, 0x0F39, 1⟩, ⟨0x0F3E, 0x0F3F, 1⟩,
   ⟨0x0F71, 0x0F84, 1⟩, ⟨0x0F86, 0x0F87, 1⟩, ⟨0x0F8D, 0x0F97, 1⟩,
   ⟨0x0F99, 0x0FBC, 1⟩, ⟨0x0FC6, 0x0FC6, 1⟩, ⟨0x102B, 0x103E, 1⟩,
   ⟨0x1040, 0x1049, 1⟩, ⟨0x1056, 0x1059, 1⟩, ⟨0x105E, 0x1060, 1⟩,
   ⟨0x1062, 0x1064, 1⟩, ⟨0x1067, 0x106D, 1⟩, ⟨0x1071, 0x1074, 1⟩,
   ⟨0x1082, 0x108D, 1⟩, ⟨0x108F, 0x109D, 1⟩, ⟨0x135D, 0x135F, 1⟩,
   ⟨0x1369, 0x1371, 1⟩, ⟨0x1712, 0x1715, 1⟩, ⟨0x1732, 0x1734, 1⟩,
   ⟨0x1752, 0x1753, 1⟩, ⟨0x1772, 0x1773, 1⟩, ⟨0x17B4, 0x17D3, 1⟩,
   ⟨0x17DD, 0x17DD, 1⟩, ⟨0x17E0, 0x17E9, 1⟩, ⟨0x180B, 0x180D, 1⟩,
   ⟨0x180F, 0x1819, 1⟩, ⟨0x18A9, 0x18A9, 1⟩, ⟨0x1920, 0x192B, 1⟩,
   ⟨0x1930, 0x193B, 1⟩, ⟨0x1946, 0x194F, 1⟩, ⟨0x19D0, 0x19DA, 1⟩,
   ⟨0x1A17, 0x1A1B, 1⟩, ⟨0x1A55, 0x1A5E, 1⟩, ⟨0x1A60, 0x1A7C, 1⟩,
   ⟨0x1A7F, 0x1A89, 1⟩, ⟨0x1A90, 0x1A99, 1⟩, ⟨0x1AB0, 0x1ABD, 1⟩,
   ⟨0x1ABF, 0x1ADD, 1⟩, ⟨0x1AE0, 0x1AEB, 1⟩, ⟨0x1B00, 0x1B04, 1⟩,
   ⟨0x1B34, 0x1B44, 1⟩, ⟨0x1B50, 0x1B59, 1⟩, ⟨0x1B6B, 0x1B73, 1⟩,
   ⟨0x1B80, 0x1B82, 1⟩, ⟨0x1BA1, 0x1BAD, 1⟩, ⟨0x1BB0, 0x1BB9, 1⟩,
   ⟨0x1BE6, 0x1BF3, 1⟩, ⟨0x1C24, 0x1C37, 1⟩, ⟨0x1C40, 0x1C49, 1⟩,
   ⟨0x1C50, 0x1C59, 1⟩, ⟨0x1CD0, 0x1CD2, 1⟩, ⟨0x1CD4, 0x1CE8, 1⟩,
   ⟨0x1CED, 0x1CED, 1⟩, ⟨0x1CF4, 0x1CF4, 1⟩, ⟨0x1CF7, 0x1CF9, 1⟩,
   ⟨0x1DC0, 0x1DFF, 1⟩, ⟨0x200C, 0x200D, 1⟩, ⟨0x203F, 0x2040, 1⟩,
   ⟨0x2054, 0x2054, 1⟩, ⟨0x20D0, 0x20DC, 1⟩, ⟨0x20E1, 0x20E1, 1⟩,
   ⟨0x20E5, 0x20F0, 1⟩, ⟨0x2CEF, 0x2CF1, 1⟩, ⟨0x2D7F, 0x2D7F, 1⟩,
   ⟨0x2DE0, 0x2DFF, 1⟩, ⟨0x302A, 0x302F, 1⟩, ⟨0x3099, 0x309A, 1⟩,
   ⟨0x30FB, 0x30FB, 1⟩, ⟨0xA620, 0xA629, 1⟩, ⟨0xA66F, 0xA66F, 1⟩,
   ⟨0xA674, 0xA67D, 1⟩, ⟨0xA69E, 0xA69F, 1⟩, ⟨0xA6F0, 0xA6F1, 1⟩,
   ⟨0xA802, 0xA802, 1⟩, ⟨0xA806, 0xA806, 1⟩, ⟨0xA80B, 0xA80B, 1⟩,
   ⟨0xA823, 0xA827, 1⟩, ⟨0xA82C, 0xA82C, 1⟩, ⟨0xA880, 0xA881, 1⟩,
   ⟨0xA8B4, 0xA8C5, 1⟩, ⟨0xA8D0, 0xA8D9, 1⟩, ⟨0xA8E0, 0xA8F1, 1⟩,
   ⟨0xA8FF, 0xA909, 1⟩, ⟨0xA926, 0xA92D, 1⟩, ⟨0xA947, 0xA953, 1⟩,
   ⟨0xA980, 0xA983, 1⟩, ⟨0xA9B3, 0xA9C0, 1⟩, ⟨0xA9D0, 0xA9D9, 1⟩,
   ⟨0xA9E5, 0xA9E5, 1⟩, ⟨0xA9F0, 0xA9F9, 1⟩, ⟨0xAA29, 0xAA36, 1⟩,
   ⟨0xAA43, 0xAA43, 1⟩, ⟨0xAA4C, 0xAA4D, 1⟩, ⟨0xAA50, 0xAA59, 1⟩,
   ⟨0xAA7B, 0xAA7D, 1⟩, ⟨0xAAB0, 0xAAB0, 1⟩, ⟨0xAAB2, 0xAAB4, 1⟩,
   ⟨0xAAB7, 0xAAB8, 1⟩, ⟨0xAABE, 0xAABF, 1⟩, ⟨0xAAC1, 0xAAC1, 1⟩,
   ⟨0xAAEB, 0xAAEF, 1⟩, ⟨0xAAF5, 0xAAF6, 1⟩, ⟨0xABE3, 0xABEA, 1⟩,
   ⟨0xABEC, 0xABED, 1⟩, ⟨0xABF0, 0xABF9, 1⟩, ⟨0xFB1E, 0xFB1E, 1⟩,
   ⟨0xFE00, 0xFE0F, 1⟩, ⟨0xFE20, 0xFE2F, 1⟩, ⟨0xFE33, 0xFE34, 1⟩,
   ⟨0xFE4D, 0xFE4F, 1⟩, ⟨0xFF10, 0xFF19, 1⟩, ⟨0xFF3F, 0xFF3F, 1⟩,
   ⟨0xFF65, 0xFF65, 1⟩, ⟨0x101FD, 0x101FD, 1⟩, ⟨0x102E0, 0x102E0, 1⟩,
   ⟨0x10376, 0x1037A, 1⟩, ⟨0x104A0, 0x104A9, 1⟩, ⟨0x10A01, 0x10A03, 1⟩,
   ⟨0x10A05, 0x10A06, 1⟩, ⟨0x10A0C, 0x10A0F, 1⟩, ⟨0x10A38, 0x10A3A, 1⟩,
   ⟨0x10A3F, 0x10A3F, 1⟩, ⟨0x10AE5, 0x10AE6, 1⟩, ⟨0x10D24, 0x10D27, 1⟩,
   ⟨0x10D30, 0x10D39, 1⟩, ⟨0x10D40, 0x10D49, 1⟩, ⟨0x10D69, 0x10D6D, 1⟩,
   ⟨0x10EAB, 0x10EAC, 1⟩, ⟨0x10EFA, 0x10EFF, 1⟩, ⟨0x10F46, 0x10F50, 1⟩,
   ⟨0x10F82, 0x10F85, 1⟩, ⟨0x11000, 0x11002, 1⟩, ⟨0x11038, 0x11046, 1⟩,
   ⟨0x11066, 0x11070, 1⟩, ⟨0x11073, 0x11074, 1⟩, ⟨0x1107F, 0x11082, 1⟩,
   ⟨0x110B0, 0x110BA, 1⟩, ⟨0x110C2, 0x110C2, 1⟩, ⟨0x110F0, 0x110F9, 1⟩,
   ⟨0x11100, 0x11102, 1⟩, ⟨0x11127, 0x11134, 1⟩, ⟨0x11136, 0x1113F, 1⟩,
   ⟨0x11145, 0x11146, 1⟩, ⟨0x11173, 0x11173, 1⟩, ⟨0x11180, 0x11182, 1⟩,
   ⟨0x111B3, 0x111C0, 1⟩, ⟨0x111C9, 0x111CC, 1⟩, ⟨0x111CE, 0x111D9, 1⟩,
   ⟨0x1122C, 0x11237, 1⟩, ⟨0x1123E, 0x1123E, 1⟩, ⟨0x11241, 0x11241, 1⟩,
   ⟨0x112DF, 0x112EA, 1⟩, ⟨0x112F0, 0x112F9, 1⟩, ⟨0x11300, 0x11303, 1⟩,
   ⟨0x1133B, 0x1133C, 1⟩, ⟨0x1133E, 0x11344, 1⟩, ⟨0x11347, 0x11348, 1⟩,
   ⟨0x1134B, 0x1134D, 1⟩, ⟨0x11357, 0x11357, 1⟩, ⟨0x11362, 0x11363, 1⟩,
   ⟨0x11366, 0x1136C, 1⟩, ⟨0x11370, 0x11374, 1⟩, ⟨0x113B8, 0x113C0, 1⟩,
   ⟨0x113C2, 0x113C2, 1⟩, ⟨0x113C5, 0x113C5, 1⟩, ⟨0x113C7, 0x113CA, 1⟩,
   ⟨0x113CC, 0x113D0, 1⟩, ⟨0x113D2, 0x113D2, 1⟩, ⟨0x113E1, 0x113E2, 1⟩,
   ⟨0x11435, 0x11446, 1⟩, ⟨0x11450, 0x11459, 1⟩, ⟨0x1145E, 0x1145E, 1⟩,
   ⟨0x114B0, 0x114C3, 1⟩, ⟨0x114D0, 0x114D9, 1⟩, ⟨0x115AF, 0x115B5, 1⟩,
   ⟨0x115B8, 0x115C0, 1⟩, ⟨0x115DC, 0x115DD, 1⟩, ⟨0x11630, 0x11640, 1⟩,
   ⟨0x11650, 0x11659, 1⟩, ⟨0x116AB, 0x116B7, 1⟩, ⟨0x116C0, 0x116C9, 1⟩,
   ⟨0x116D0, 0x116E3, 1⟩, ⟨0x1171D, 0x1172B, 1⟩, ⟨0x11730, 0x11739, 1⟩,
   ⟨0x1182C, 0x1183A, 1⟩, ⟨0x118E0, 0x118E9, 1⟩, ⟨0x11930, 0x11935, 1⟩,
   ⟨0x11937, 0x11938, 1⟩, ⟨0x1193B, 0x1193E, 1⟩, ⟨0x11940, 0x11940, 1⟩,
   ⟨0x11942, 0x11943, 1⟩, ⟨0x11950, 0x11959, 1⟩, ⟨0x119D1, 0x119D7, 1⟩,
   ⟨0x119DA, 0x119E0, 1⟩, ⟨0x119E4, 0x119E4, 1⟩, ⟨0x11A01, 0x11A0A, 1⟩,
   ⟨0x11A33, 0x11A39, 1⟩, ⟨0x11A3B, 0x11A3E, 1⟩, ⟨0x11A47, 0x11A47, 1⟩,
   ⟨0x11A51, 0x11A5B, 1⟩, ⟨0x11A8A, 0x11A99, 1⟩, ⟨0x11B60, 0x11B67, 1⟩,
   ⟨0x11BF0, 0x11BF9, 1⟩, ⟨0x11C2F, 0x11C36, 1⟩, ⟨0x11C38, 0x11C3F, 1⟩,
   ⟨0x11C50, 0x11C59, 1⟩, ⟨0x11C92, 0x11CA7, 1⟩, ⟨0x11CA9, 0x11CB6, 1⟩,
   ⟨0x11D31, 0x11D36, 1⟩, ⟨0x11D3A, 0x11D3A, 1⟩, ⟨0x11D3C, 0x11D3D, 1⟩,
   ⟨0x11D3F, 0x11D45, 1⟩, ⟨0x11D47, 0x11D47, 1⟩, ⟨0x11D50, 0x11D59, 1⟩,
   ⟨0x11D8A, 0x11D8E, 1⟩, ⟨0x11D90, 0x11D91, 1⟩, ⟨0x11D93, 0x11D97, 1⟩,
   ⟨0x11DA0, 0x11DA9, 1⟩, ⟨0x11DE0, 0x11DE9, 1⟩, ⟨0x11EF3, 0x11EF6, 1⟩,
   ⟨0x11F00, 0x11F01, 1⟩, ⟨0x11F03, 0x11F03, 1⟩, ⟨0x11F34, 0x11F3A, 1⟩,
   ⟨0x11F3E, 0x11F42, 1⟩, ⟨0x11F50, 0x11F5A, 1⟩, ⟨0x13440, 0x13440, 1⟩,
   ⟨0x13447, 0x13455, 1⟩, ⟨0x1611E, 0x16139, 1⟩, ⟨0x16A60, 0x16A69, 1⟩,
   ⟨0x16AC0, 0x16AC9, 1⟩, ⟨0x16AF0, 0x16AF4, 1⟩, ⟨0x16B30, 0x16B36, 1⟩,
   ⟨0x16B50, 0x16B59, 1⟩, ⟨0x16D70, 0x16D79, 1⟩, ⟨0x16F4F, 0x16F4F, 1⟩,
   ⟨0x16F51, 0x16F87, 1⟩, ⟨0x16F8F, 0x16F92, 1⟩, ⟨0x16FE4, 0x16FE4, 1⟩,
   ⟨0x16FF0, 0x16FF1, 1⟩, ⟨0x1BC9D, 0x1BC9E, 1⟩, ⟨0x1CCF0, 0x1CCF9, 1⟩,
   ⟨0x1CF00, 0x1CF2D, 1⟩, ⟨0x1CF30, 0x1CF46, 1⟩, ⟨0x1D165, 0x1D169, 1⟩,
   ⟨0x1D16D, 0x1D172, 1⟩, ⟨0x1D17B, 0x1D182, 1⟩, ⟨0x1D185, 0x1D18B, 1⟩,
   ⟨0x1D1AA, 0x1D1AD, 1⟩, ⟨0x1D242, 0x1D244, 1⟩, ⟨0x1D7CE, 0x1D7FF, 1⟩,
   ⟨0x1DA00, 0x1DA36, 1⟩, ⟨0x1DA3B, 0x1DA6C, 1⟩, ⟨0x1DA75, 0x1DA75, 1⟩,
   ⟨0x1DA84, 0x1DA84, 1⟩, ⟨0x1DA9B, 0x1DA9F, 1⟩, ⟨0x1DAA1, 0x1DAAF, 1⟩,
   ⟨0x1E000, 0x1E006, 1⟩, ⟨0x1E008, 0x1E018, 1⟩, ⟨0x1E01B, 0x1E021, 1⟩,
   ⟨0x1E023, 0x1E024, 1⟩, ⟨0x1E026, 0x1E02A, 1⟩, ⟨0x1E08F, 0x1E08F, 1⟩,
   ⟨0x1E130, 0x1E136, 1⟩, ⟨0x1E140, 0x1E149, 1⟩, ⟨0x1E2AE, 0x1E2AE, 1⟩,
   ⟨0x1E2EC, 0x1E2F9, 1⟩, ⟨0x1E4EC, 0x1E4F9, 1⟩, ⟨0x1E5EE, 0x1E5EF, 1⟩,
   ⟨0x1E5F1, 0x1E5FA, 1⟩, ⟨0x1E6E3, 0x1E6E3, 1⟩, ⟨0x1E6E6, 0x1E6E6, 1⟩,
   ⟨0x1E6EE, 0x1E6EF, 1⟩, ⟨0x1E6F5, 0x1E6F5, 1⟩, ⟨0x1E8D0, 0x1E8D6, 1⟩,
   ⟨0x1E944, 0x1E94A, 1⟩, ⟨0x1E950, 0x1E959, 1⟩, ⟨0x1FBF0, 0x1FBF9, 1⟩,
   ⟨0xE0100, 0xE01EF, 1⟩]

/-- Code points with the property `ID_Continue`. -/
def identifierPart : RunSet := identifierStart ++ identifierMark

/-- Letters and numerals without the property `ID_Continue`: superscripts, subscripts, fractions,
encircled letters and numbers, and the numerals of some scripts. -/
def strays : RunSet :=
  [⟨0x00B2, 0x00B3, 1⟩, ⟨0x00B9, 0x00B9, 1⟩, ⟨0x00BC, 0x00BE, 1⟩,
   ⟨0x09F4, 0x09F9, 1⟩, ⟨0x0B72, 0x0B77, 1⟩, ⟨0x0BF0, 0x0BF2, 1⟩,
   ⟨0x0C78, 0x0C7E, 1⟩, ⟨0x0D58, 0x0D5E, 1⟩, ⟨0x0D70, 0x0D78, 1⟩,
   ⟨0x0F2A, 0x0F33, 1⟩, ⟨0x1372, 0x137C, 1⟩, ⟨0x17F0, 0x17F9, 1⟩,
   ⟨0x2070, 0x2070, 1⟩, ⟨0x2074, 0x2079, 1⟩, ⟨0x2080, 0x2089, 1⟩,
   ⟨0x2150, 0x215F, 1⟩, ⟨0x2189, 0x2189, 1⟩, ⟨0x2460, 0x249B, 1⟩,
   ⟨0x24B6, 0x24FF, 1⟩, ⟨0x2776, 0x2793, 1⟩, ⟨0x2CFD, 0x2CFD, 1⟩,
   ⟨0x2E2F, 0x2E2F, 1⟩, ⟨0x3192, 0x3195, 1⟩, ⟨0x3220, 0x3229, 1⟩,
   ⟨0x3248, 0x324F, 1⟩, ⟨0x3251, 0x325F, 1⟩, ⟨0x3280, 0x3289, 1⟩,
   ⟨0x32B1, 0x32BF, 1⟩, ⟨0xA830, 0xA835, 1⟩, ⟨0x10107, 0x10133, 1⟩,
   ⟨0x10175, 0x10178, 1⟩, ⟨0x1018A, 0x1018B, 1⟩, ⟨0x102E1, 0x102FB, 1⟩,
   ⟨0x10320, 0x10323, 1⟩, ⟨0x10858, 0x1085F, 1⟩, ⟨0x10879, 0x1087F, 1⟩,
   ⟨0x108A7, 0x108AF, 1⟩, ⟨0x108FB, 0x108FF, 1⟩, ⟨0x10916, 0x1091B, 1⟩,
   ⟨0x109BC, 0x109BD, 1⟩, ⟨0x109C0, 0x109CF, 1⟩, ⟨0x109D2, 0x109FF, 1⟩,
   ⟨0x10A40, 0x10A48, 1⟩, ⟨0x10A7D, 0x10A7E, 1⟩, ⟨0x10A9D, 0x10A9F, 1⟩,
   ⟨0x10AEB, 0x10AEF, 1⟩, ⟨0x10B58, 0x10B5F, 1⟩, ⟨0x10B78, 0x10B7F, 1⟩,
   ⟨0x10BA9, 0x10BAF, 1⟩, ⟨0x10CFA, 0x10CFF, 1⟩, ⟨0x10E60, 0x10E7E, 1⟩,
   ⟨0x10F1D, 0x10F26, 1⟩, ⟨0x10F51, 0x10F54, 1⟩, ⟨0x10FC5, 0x10FCB, 1⟩,
   ⟨0x11052, 0x11065, 1⟩, ⟨0x111E1, 0x111F4, 1⟩, ⟨0x1173A, 0x1173B, 1⟩,
   ⟨0x118EA, 0x118F2, 1⟩, ⟨0x11C5A, 0x11C6C, 1⟩, ⟨0x11FC0, 0x11FD4, 1⟩,
   ⟨0x16B5B, 0x16B61, 1⟩, ⟨0x16E80, 0x16E96, 1⟩, ⟨0x1D2C0, 0x1D2D3, 1⟩,
   ⟨0x1D2E0, 0x1D2F3, 1⟩, ⟨0x1D360, 0x1D378, 1⟩, ⟨0x1E8C7, 0x1E8CF, 1⟩,
   ⟨0x1EC71, 0x1ECAB, 1⟩, ⟨0x1ECAD, 0x1ECAF, 1⟩, ⟨0x1ECB1, 0x1ECB4, 1⟩,
   ⟨0x1ED01, 0x1ED2D, 1⟩, ⟨0x1ED2F, 0x1ED3D, 1⟩, ⟨0x1F100, 0x1F10C, 1⟩,
   ⟨0x1F130, 0x1F149, 1⟩, ⟨0x1F150, 0x1F169, 1⟩, ⟨0x1F170, 0x1F189, 1⟩]

/-! ## Sets of code points as bits -/

/-- The code points of a run, as the bits of one number. -/
def Run.mask (r : Run) : Nat :=
  if r.step = 1 then ((1 <<< (r.last + 1 - r.first)) - 1) <<< r.first else bits r.codes

def RunSet.mask (s : RunSet) : Nat := s.foldr (fun r set => r.mask ||| set) 0

theorem Run.testBit_mask {r : Run} (hstep : r.step = 1) (n : Nat) :
    r.mask.testBit n = r.mem n := by
  rw [Run.mask, if_pos hstep, Nat.testBit_shiftLeft, Nat.one_shiftLeft,
    Nat.testBit_two_pow_sub_one, Run.mem, hstep, Nat.mod_one, beq_self_eq_true, Bool.and_true]
  simp only [ge_iff_le, ← Bool.decide_and, decide_eq_decide]
  omega

theorem Run.testBit_mask_of_mem {r : Run} {n : Nat} (h : r.mem n = true) :
    r.mask.testBit n = true := by
  by_cases hstep : r.step = 1
  · rw [Run.testBit_mask hstep, h]
  · rw [Run.mask, if_neg hstep]
    exact testBit_bits (Run.mem_codes h)

theorem RunSet.testBit_mask (s : RunSet) (n : Nat) :
    s.mask.testBit n = s.any fun r => r.mask.testBit n := by
  induction s with
  | nil => exact Nat.zero_testBit n
  | cons r s ih =>
      simp [RunSet.mask, Nat.testBit_or, ← ih]

theorem RunSet.testBit_mask_of_contains {s : RunSet} {c : Char} (h : s.contains c = true) :
    s.mask.testBit c.toNat = true := by
  obtain ⟨r, hr, hmem⟩ := RunSet.contains_iff.mp h
  rw [RunSet.testBit_mask]
  exact List.any_eq_true.mpr ⟨r, hr, Run.testBit_mask_of_mem hmem⟩

/-- All code points of `s` are code points of `t`, whose runs have no gaps. -/
def RunSet.Within (s t : RunSet) : Prop := (∀ r ∈ t, r.step = 1) ∧ s.mask ||| t.mask = t.mask

instance (s t : RunSet) : Decidable (s.Within t) := inferInstanceAs (Decidable (_ ∧ _))

theorem RunSet.Within.contains {s t : RunSet} (h : s.Within t) {c : Char}
    (hc : s.contains c = true) : t.contains c = true := by
  have hbit : t.mask.testBit c.toNat = true := by
    rw [← h.2, Nat.testBit_or, RunSet.testBit_mask_of_contains hc, Bool.true_or]
  rw [RunSet.testBit_mask] at hbit
  obtain ⟨r, hr, hmem⟩ := List.any_eq_true.mp hbit
  exact RunSet.contains_iff.mpr ⟨r, hr, (Run.testBit_mask (h.1 r hr) _).symm.trans hmem⟩

/-- No code point is in both classes, as `RunSet.Apart` says of classes that are small enough to be
written out code point by code point. -/
def RunSet.Separate (s t : RunSet) : Prop := s.mask &&& t.mask = 0

instance (s t : RunSet) : Decidable (s.Separate t) := inferInstanceAs (Decidable (_ = _))

theorem RunSet.Separate.contains_eq_false {s t : RunSet} (h : s.Separate t) {c : Char}
    (hs : s.contains c = true) : t.contains c = false := by
  rw [Bool.eq_false_iff]
  intro ht
  have hboth := Nat.testBit_and s.mask t.mask c.toNat
  rw [h, testBit_mask_of_contains hs, testBit_mask_of_contains ht, Nat.zero_testBit] at hboth
  cases hboth

/-! ## Letters and numerals in identifiers -/

def asciiRun : Run := ⟨0, 127, 1⟩

theorem mem_asciiRun {n : Nat} (h : n < 128) : asciiRun.mem n = true :=
  Run.mem_iff.mpr ⟨Nat.zero_le _, Nat.le_of_lt_succ h, Nat.one_dvd _⟩

/-- A letter or a numeral may stand in an identifier unless it is a stray one, and a letter that
is no stray one may start an identifier unless it is a mark. Within ASCII there are no stray ones,
and no letter is a mark. -/
theorem identifier_tables :
    RunSet.Within (alphabetic ++ numeric) (identifierPart ++ strays) ∧
    strays.Separate identifierPart ∧ identifierMark.Separate identifierStart ∧
    strays.Separate [asciiRun] ∧ alphabetic.mask &&& identifierMark.mask &&& asciiRun.mask = 0 := by
  decide +kernel

variable {c : Char}

theorem identifierPart_contains_eq (h : isAlphanumeric c = true) :
    identifierPart.contains c = !strays.contains c := by
  have hlisted : (alphabetic ++ numeric).contains c = true := by
    rwa [RunSet.contains, List.any_append]
  have hcases := identifier_tables.1.contains hlisted
  rw [RunSet.contains, List.any_append, Bool.or_eq_true] at hcases
  cases hstray : strays.contains c with
  | true => exact identifier_tables.2.1.contains_eq_false hstray
  | false =>
      rcases hcases with hpart | hlast
      · exact hpart
      · exact absurd (hlast.symm.trans hstray) (by decide)

theorem identifierStart_contains_eq (h : isAlphabetic c = true) :
    identifierStart.contains c = (!strays.contains c && !identifierMark.contains c) := by
  have halphanumeric : isAlphanumeric c = true := by
    rw [isAlphanumeric, Bool.or_eq_true]
    exact .inl h
  rw [← identifierPart_contains_eq halphanumeric]
  cases hmark : identifierMark.contains c with
  | true =>
      rw [identifier_tables.2.2.1.contains_eq_false hmark, Bool.not_true, Bool.and_false]
  | false =>
      have happend : identifierPart.contains c =
          (identifierStart.contains c || identifierMark.contains c) := List.any_append
      rw [happend, hmark, Bool.or_false, Bool.not_false, Bool.and_true]

end SchemaCodegen.Text
