import ChunkTree.Text.Charset
import ChunkTree.Text.CodeIndex

/-!
# The upper halves of the single-byte code pages

For each code page the characters of the bytes `0x80` to `0xff`, sixteen a row.
-/

namespace ChunkTree.Text

/-- The characters of the bytes from `0x80` on. -/
def CodePage.index : CodePage → CodeIndex
  | .ibm866 => ⟨16, #[
    0x0410041104120413041404150416041704180419041a041b041c041d041e041f,
    0x0420042104220423042404250426042704280429042a042b042c042d042e042f,
    0x0430043104320433043404350436043704380439043a043b043c043d043e043f,
    0x259125922593250225242561256225562555256325512557255d255c255b2510,
    0x25142534252c251c2500253c255e255f255a25542569256625602550256c2567,
    0x2568256425652559255825522553256b256a2518250c25882584258c25902580,
    0x0440044104420443044404450446044704480449044a044b044c044d044e044f,
    0x040104510404045404070457040e045e00b0221900b7221a211600a425a000a0]⟩
  | .latin2 => ⟨16, #[
    0x0080008100820083008400850086008700880089008a008b008c008d008e008f,
    0x0090009100920093009400950096009700980099009a009b009c009d009e009f,
    0x00a0010402d8014100a4013d015a00a700a80160015e0164017900ad017d017b,
    0x00b0010502db014200b4013e015b02c700b80161015f0165017a02dd017e017c,
    0x015400c100c2010200c40139010600c7010c00c9011800cb011a00cd00ce010e,
    0x01100143014700d300d4015000d600d70158016e00da017000dc00dd016200df,
    0x015500e100e2010300e4013a010700e7010d00e9011900eb011b00ed00ee010f,
    0x01110144014800f300f4015100f600f70159016f00fa017100fc00fd016302d9]⟩
  | .latin3 => ⟨16, #[
    0x0080008100820083008400850086008700880089008a008b008c008d008e008f,
    0x0090009100920093009400950096009700980099009a009b009c009d009e009f,
    0x00a0012602d800a300a40000012400a700a80130015e011e013400ad0000017b,
    0x00b0012700b200b300b400b5012500b700b80131015f011f013500bd0000017c,
    0x00c000c100c2000000c4010a010800c700c800c900ca00cb00cc00cd00ce00cf,
    0x000000d100d200d300d4012000d600d7011c00d900da00db00dc016c015c00df,
    0x00e000e100e2000000e4010b010900e700e800e900ea00eb00ec00ed00ee00ef,
    0x000000f100f200f300f4012100f600f7011d00f900fa00fb00fc016d015d02d9]⟩
  | .latin4 => ⟨16, #[
    0x0080008100820083008400850086008700880089008a008b008c008d008e008f,
    0x0090009100920093009400950096009700980099009a009b009c009d009e009f,
    0x00a001040138015600a40128013b00a700a8016001120122016600ad017d00af,
    0x00b0010502db015700b40129013c02c700b80161011301230167014a017e014b,
    0x010000c100c200c300c400c500c6012e010c00c9011800cb011600cd00ce012a,
    0x01100145014c013600d400d500d600d700d8017200da00db00dc0168016a00df,
    0x010100e100e200e300e400e500e6012f010d00e9011900eb011700ed00ee012b,
    0x01110146014d013700f400f500f600f700f8017300fa00fb00fc0169016b02d9]⟩
  | .cyrillic => ⟨16, #[
    0x0080008100820083008400850086008700880089008a008b008c008d008e008f,
    0x0090009100920093009400950096009700980099009a009b009c009d009e009f,
    0x00a0040104020403040404050406040704080409040a040b040c00ad040e040f,
    0x0410041104120413041404150416041704180419041a041b041c041d041e041f,
    0x0420042104220423042404250426042704280429042a042b042c042d042e042f,
    0x0430043104320433043404350436043704380439043a043b043c043d043e043f,
    0x0440044104420443044404450446044704480449044a044b044c044d044e044f,
    0x2116045104520453045404550456045704580459045a045b045c00a7045e045f]⟩
  | .arabic => ⟨16, #[
    0x0080008100820083008400850086008700880089008a008b008c008d008e008f,
    0x0090009100920093009400950096009700980099009a009b009c009d009e009f,
    0x00a000000000000000a40000000000000000000000000000060c00ad00000000,
    0x00000000000000000000000000000000000000000000061b000000000000061f,
    0x0000062106220623062406250626062706280629062a062b062c062d062e062f,
    0x0630063106320633063406350636063706380639063a00000000000000000000,
    0x0640064106420643064406450646064706480649064a064b064c064d064e064f,
    0x0650065106520000000000000000000000000000000000000000000000000000]⟩
  | .greek => ⟨16, #[
    0x0080008100820083008400850086008700880089008a008b008c008d008e008f,
    0x0090009100920093009400950096009700980099009a009b009c009d009e009f,
    0x00a02018201900a320ac20af00a600a700a800a9037a00ab00ac00ad00002015,
    0x00b000b100b200b303840385038600b703880389038a00bb038c00bd038e038f,
    0x0390039103920393039403950396039703980399039a039b039c039d039e039f,
    0x03a003a1000003a303a403a503a603a703a803a903aa03ab03ac03ad03ae03af,
    0x03b003b103b203b303b403b503b603b703b803b903ba03bb03bc03bd03be03bf,
    0x03c003c103c203c303c403c503c603c703c803c903ca03cb03cc03cd03ce0000]⟩
  | .hebrew | .hebrewLogical => ⟨16, #[
    0x0080008100820083008400850086008700880089008a008b008c008d008e008f,
    0x0090009100920093009400950096009700980099009a009b009c009d009e009f,
    0x00a0000000a200a300a400a500a600a700a800a900d700ab00ac00ad00ae00af,
    0x00b000b100b200b300b400b500b600b700b800b900f700bb00bc00bd00be0000,
    0,
    0x0000000000000000000000000000000000000000000000000000000000002017,
    0x05d005d105d205d305d405d505d605d705d805d905da05db05dc05dd05de05df,
    0x05e005e105e205e305e405e505e605e705e805e905ea00000000200e200f0000]⟩
  | .latin6 => ⟨16, #[
    0x0080008100820083008400850086008700880089008a008b008c008d008e008f,
    0x0090009100920093009400950096009700980099009a009b009c009d009e009f,
    0x00a0010401120122012a0128013600a7013b011001600166017d00ad016a014a,
    0x00b0010501130123012b0129013700b7013c011101610167017e2015016b014b,
    0x010000c100c200c300c400c500c6012e010c00c9011800cb011600cd00ce00cf,
    0x00d00145014c00d300d400d500d6016800d8017200da00db00dc00dd00de00df,
    0x010100e100e200e300e400e500e6012f010d00e9011900eb011700ed00ee00ef,
    0x00f00146014d00f300f400f500f6016900f8017300fa00fb00fc00fd00fe0138]⟩
  | .latin7 => ⟨16, #[
    0x0080008100820083008400850086008700880089008a008b008c008d008e008f,
    0x0090009100920093009400950096009700980099009a009b009c009d009e009f,
    0x00a0201d00a200a300a4201e00a600a700d800a9015600ab00ac00ad00ae00c6,
    0x00b000b100b200b3201c00b500b600b700f800b9015700bb00bc00bd00be00e6,
    0x0104012e0100010600c400c501180112010c00c90179011601220136012a013b,
    0x01600143014500d3014c00d500d600d701720141015a016a00dc017b017d00df,
    0x0105012f0101010700e400e501190113010d00e9017a011701230137012b013c,
    0x01610144014600f3014d00f500f600f701730142015b016b00fc017c017e2019]⟩
  | .latin8 => ⟨16, #[
    0x0080008100820083008400850086008700880089008a008b008c008d008e008f,
    0x0090009100920093009400950096009700980099009a009b009c009d009e009f,
    0x00a01e021e0300a3010a010b1e0a00a71e8000a91e821e0b1ef200ad00ae0178,
    0x1e1e1e1f012001211e401e4100b61e561e811e571e831e601ef31e841e851e61,
    0x00c000c100c200c300c400c500c600c700c800c900ca00cb00cc00cd00ce00cf,
    0x017400d100d200d300d400d500d61e6a00d800d900da00db00dc00dd017600df,
    0x00e000e100e200e300e400e500e600e700e800e900ea00eb00ec00ed00ee00ef,
    0x017500f100f200f300f400f500f61e6b00f800f900fa00fb00fc00fd017700ff]⟩
  | .latin9 => ⟨16, #[
    0x0080008100820083008400850086008700880089008a008b008c008d008e008f,
    0x0090009100920093009400950096009700980099009a009b009c009d009e009f,
    0x00a000a100a200a320ac00a5016000a7016100a900aa00ab00ac00ad00ae00af,
    0x00b000b100b200b3017d00b500b600b7017e00b900ba00bb01520153017800bf,
    0x00c000c100c200c300c400c500c600c700c800c900ca00cb00cc00cd00ce00cf,
    0x00d000d100d200d300d400d500d600d700d800d900da00db00dc00dd00de00df,
    0x00e000e100e200e300e400e500e600e700e800e900ea00eb00ec00ed00ee00ef,
    0x00f000f100f200f300f400f500f600f700f800f900fa00fb00fc00fd00fe00ff]⟩
  | .latin10 => ⟨16, #[
    0x0080008100820083008400850086008700880089008a008b008c008d008e008f,
    0x0090009100920093009400950096009700980099009a009b009c009d009e009f,
    0x00a001040105014120ac201e016000a7016100a9021800ab017900ad017a017b,
    0x00b000b1010c0142017d201d00b600b7017e010d021900bb015201530178017c,
    0x00c000c100c2010200c4010600c600c700c800c900ca00cb00cc00cd00ce00cf,
    0x0110014300d200d300d4015000d6015a017000d900da00db00dc0118021a00df,
    0x00e000e100e2010300e4010700e600e700e800e900ea00eb00ec00ed00ee00ef,
    0x0111014400f200f300f4015100f6015b017100f900fa00fb00fc0119021b00ff]⟩
  | .koi8r => ⟨16, #[
    0x25002502250c251025142518251c2524252c2534253c258025842588258c2590,
    0x259125922593232025a02219221a22482264226500a0232100b000b200b700f7,
    0x25502551255204512553255425552556255725582559255a255b255c255d255e,
    0x255f25602561040125622563256425652566256725682569256a256b256c00a9,
    0x044e0430043104460434043504440433044504380439043a043b043c043d043e,
    0x043f044f044004410442044304360432044c044b04370448044d04490447044a,
    0x042e0410041104260414041504240413042504180419041a041b041c041d041e,
    0x041f042f042004210422042304160412042c042b04170428042d04290427042a]⟩
  | .koi8u => ⟨16, #[
    0x25002502250c251025142518251c2524252c2534253c258025842588258c2590,
    0x259125922593232025a02219221a22482264226500a0232100b000b200b700f7,
    0x25502551255204510454255404560457255725582559255a255b0491045e255e,
    0x255f25602561040104042563040604072566256725682569256a0490040e00a9,
    0x044e0430043104460434043504440433044504380439043a043b043c043d043e,
    0x043f044f044004410442044304360432044c044b04370448044d04490447044a,
    0x042e0410041104260414041504240413042504180419041a041b041c041d041e,
    0x041f042f042004210422042304160412042c042b04170428042d04290427042a]⟩
  | .macintosh => ⟨16, #[
    0x00c400c500c700c900d100d600dc00e100e000e200e400e300e500e700e900e8,
    0x00ea00eb00ed00ec00ee00ef00f100f300f200f400f600f500fa00f900fb00fc,
    0x202000b000a200a300a7202200b600df00ae00a9212200b400a8226000c600d8,
    0x221e00b12264226500a500b522022211220f03c0222b00aa00ba03a900e600f8,
    0x00bf00a100ac221a01922248220600ab00bb202600a000c000c300d501520153,
    0x20132014201c201d2018201900f725ca00ff0178204420ac2039203afb01fb02,
    0x202100b7201a201e203000c200ca00c100cb00c800cd00ce00cf00cc00d300d4,
    0xf8ff00d200da00db00d9013102c602dc00af02d802d902da00b802dd02db02c7]⟩
  | .windows874 => ⟨16, #[
    0x20ac008100820083008420260086008700880089008a008b008c008d008e008f,
    0x009020182019201c201d20222013201400980099009a009b009c009d009e009f,
    0x00a00e010e020e030e040e050e060e070e080e090e0a0e0b0e0c0e0d0e0e0e0f,
    0x0e100e110e120e130e140e150e160e170e180e190e1a0e1b0e1c0e1d0e1e0e1f,
    0x0e200e210e220e230e240e250e260e270e280e290e2a0e2b0e2c0e2d0e2e0e2f,
    0x0e300e310e320e330e340e350e360e370e380e390e3a00000000000000000e3f,
    0x0e400e410e420e430e440e450e460e470e480e490e4a0e4b0e4c0e4d0e4e0e4f,
    0x0e500e510e520e530e540e550e560e570e580e590e5a0e5b0000000000000000]⟩
  | .windows1250 => ⟨16, #[
    0x20ac0081201a0083201e2026202020210088203001602039015a0164017d0179,
    0x009020182019201c201d202220132014009821220161203a015b0165017e017a,
    0x00a002c702d8014100a4010400a600a700a800a9015e00ab00ac00ad00ae017b,
    0x00b000b102db014200b400b500b600b700b80105015f00bb013d02dd013e017c,
    0x015400c100c2010200c40139010600c7010c00c9011800cb011a00cd00ce010e,
    0x01100143014700d300d4015000d600d70158016e00da017000dc00dd016200df,
    0x015500e100e2010300e4013a010700e7010d00e9011900eb011b00ed00ee010f,
    0x01110144014800f300f4015100f600f70159016f00fa017100fc00fd016302d9]⟩
  | .windows1251 => ⟨16, #[
    0x04020403201a0453201e20262020202120ac203004092039040a040c040b040f,
    0x045220182019201c201d202220132014009821220459203a045a045c045b045f,
    0x00a0040e045e040800a4049000a600a7040100a9040400ab00ac00ad00ae0407,
    0x00b000b104060456049100b500b600b704512116045400bb0458040504550457,
    0x0410041104120413041404150416041704180419041a041b041c041d041e041f,
    0x0420042104220423042404250426042704280429042a042b042c042d042e042f,
    0x0430043104320433043404350436043704380439043a043b043c043d043e043f,
    0x0440044104420443044404450446044704480449044a044b044c044d044e044f]⟩
  | .windows1252 => ⟨16, #[
    0x20ac0081201a0192201e20262020202102c62030016020390152008d017d008f,
    0x009020182019201c201d20222013201402dc21220161203a0153009d017e0178,
    0x00a000a100a200a300a400a500a600a700a800a900aa00ab00ac00ad00ae00af,
    0x00b000b100b200b300b400b500b600b700b800b900ba00bb00bc00bd00be00bf,
    0x00c000c100c200c300c400c500c600c700c800c900ca00cb00cc00cd00ce00cf,
    0x00d000d100d200d300d400d500d600d700d800d900da00db00dc00dd00de00df,
    0x00e000e100e200e300e400e500e600e700e800e900ea00eb00ec00ed00ee00ef,
    0x00f000f100f200f300f400f500f600f700f800f900fa00fb00fc00fd00fe00ff]⟩
  | .windows1253 => ⟨16, #[
    0x20ac0081201a0192201e20262020202100882030008a2039008c008d008e008f,
    0x009020182019201c201d20222013201400982122009a203a009c009d009e009f,
    0x00a00385038600a300a400a500a600a700a800a9000000ab00ac00ad00ae2015,
    0x00b000b100b200b3038400b500b600b703880389038a00bb038c00bd038e038f,
    0x0390039103920393039403950396039703980399039a039b039c039d039e039f,
    0x03a003a1000003a303a403a503a603a703a803a903aa03ab03ac03ad03ae03af,
    0x03b003b103b203b303b403b503b603b703b803b903ba03bb03bc03bd03be03bf,
    0x03c003c103c203c303c403c503c603c703c803c903ca03cb03cc03cd03ce0000]⟩
  | .windows1254 => ⟨16, #[
    0x20ac0081201a0192201e20262020202102c62030016020390152008d008e008f,
    0x009020182019201c201d20222013201402dc21220161203a0153009d009e0178,
    0x00a000a100a200a300a400a500a600a700a800a900aa00ab00ac00ad00ae00af,
    0x00b000b100b200b300b400b500b600b700b800b900ba00bb00bc00bd00be00bf,
    0x00c000c100c200c300c400c500c600c700c800c900ca00cb00cc00cd00ce00cf,
    0x011e00d100d200d300d400d500d600d700d800d900da00db00dc0130015e00df,
    0x00e000e100e200e300e400e500e600e700e800e900ea00eb00ec00ed00ee00ef,
    0x011f00f100f200f300f400f500f600f700f800f900fa00fb00fc0131015f00ff]⟩
  | .windows1255 => ⟨16, #[
    0x20ac0081201a0192201e20262020202102c62030008a2039008c008d008e008f,
    0x009020182019201c201d20222013201402dc2122009a203a009c009d009e009f,
    0x00a000a100a200a320aa00a500a600a700a800a900d700ab00ac00ad00ae00af,
    0x00b000b100b200b300b400b500b600b700b800b900f700bb00bc00bd00be00bf,
    0x05b005b105b205b305b405b505b605b705b805b905ba05bb05bc05bd05be05bf,
    0x05c005c105c205c305f005f105f205f305f40000000000000000000000000000,
    0x05d005d105d205d305d405d505d605d705d805d905da05db05dc05dd05de05df,
    0x05e005e105e205e305e405e505e605e705e805e905ea00000000200e200f0000]⟩
  | .windows1256 => ⟨16, #[
    0x20ac067e201a0192201e20262020202102c62030067920390152068606980688,
    0x06af20182019201c201d20222013201406a921220691203a0153200c200d06ba,
    0x00a0060c00a200a300a400a500a600a700a800a906be00ab00ac00ad00ae00af,
    0x00b000b100b200b300b400b500b600b700b800b9061b00bb00bc00bd00be061f,
    0x06c1062106220623062406250626062706280629062a062b062c062d062e062f,
    0x063006310632063306340635063600d7063706380639063a0640064106420643,
    0x00e0064400e2064506460647064800e700e800e900ea00eb0649064a00ee00ef,
    0x064b064c064d064e00f4064f065000f7065100f9065200fb00fc200e200f06d2]⟩
  | .windows1257 => ⟨16, #[
    0x20ac0081201a0083201e20262020202100882030008a2039008c00a802c700b8,
    0x009020182019201c201d20222013201400982122009a203a009c00af02db009f,
    0x00a0000000a200a300a4000000a600a700d800a9015600ab00ac00ad00ae00c6,
    0x00b000b100b200b300b400b500b600b700f800b9015700bb00bc00bd00be00e6,
    0x0104012e0100010600c400c501180112010c00c90179011601220136012a013b,
    0x01600143014500d3014c00d500d600d701720141015a016a00dc017b017d00df,
    0x0105012f0101010700e400e501190113010d00e9017a011701230137012b013c,
    0x01610144014600f3014d00f500f600f701730142015b016b00fc017c017e02d9]⟩
  | .windows1258 => ⟨16, #[
    0x20ac0081201a0192201e20262020202102c62030008a20390152008d008e008f,
    0x009020182019201c201d20222013201402dc2122009a203a0153009d009e0178,
    0x00a000a100a200a300a400a500a600a700a800a900aa00ab00ac00ad00ae00af,
    0x00b000b100b200b300b400b500b600b700b800b900ba00bb00bc00bd00be00bf,
    0x00c000c100c2010200c400c500c600c700c800c900ca00cb030000cd00ce00cf,
    0x011000d1030900d300d401a000d600d700d800d900da00db00dc01af030300df,
    0x00e000e100e2010300e400e500e600e700e800e900ea00eb030100ed00ee00ef,
    0x011100f1032300f300f401a100f600f700f800f900fa00fb00fc01b020ab00ff]⟩
  | .macCyrillic => ⟨16, #[
    0x0410041104120413041404150416041704180419041a041b041c041d041e041f,
    0x0420042104220423042404250426042704280429042a042b042c042d042e042f,
    0x202000b0049000a300a7202200b6040600ae00a9212204020452226004030453,
    0x221e00b122642265045600b504910408040404540407045704090459040a045a,
    0x0458040500ac221a01922248220600ab00bb202600a0040b045b040c045c0455,
    0x20132014201c201d2018201900f7201e040e045e040f045f211604010451044f,
    0x0430043104320433043404350436043704380439043a043b043c043d043e043f,
    0x0440044104420443044404450446044704480449044a044b044c044d044e20ac]⟩

end ChunkTree.Text
