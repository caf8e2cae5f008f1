import ChunkTree.Text.CodeIndex

/-!
# The JIS X 0208 index

Characters of JIS X 0208 by pointer, with the vendor rows that legacy Japanese text uses.  Sixteen
characters a row, four hexadecimal digits each, zero where a pointer stands for nothing.
-/

namespace ChunkTree.Text

set_option maxRecDepth 8000 in
def jis0208 : CodeIndex where
  width := 16
  rows := #[
    0x300030013002ff0cff0e30fbff1aff1bff1fff01309b309c00b4ff4000a8ff3e,
    0xffe3ff3f30fd30fe309d309e30034edd30053006300730fc20152010ff0fff3c,
    0xff5e2225ff5c2026202520182019201c201dff08ff0930143015ff3bff3dff5b,
    0xff5d30083009300a300b300c300d300e300f30103011ff0bff0d00b100d700f7,
    0xff1d2260ff1cff1e22662267221e22342642264000b0203220332103ffe5ff04,
    0xffe0ffe1ff05ff03ff06ff0aff2000a72606260525cb25cf25ce25c725c625a1,
    0x25a025b325b225bd25bc203b3012219221902191219330130000000000000000,
    0x00000000000000000000000000002208220b2286228722822283222a22290000,
    0x000000000000000000000000000022272228ffe221d221d42200220300000000,
    0x000000000000000000000000000000000000222022a523122202220722612252,
    0x226a226b221a223d221d2235222b222c0000000000000000000000000000212b,
    0x2030266f266d266a2020202100b6000000000000000025ef0000000000000000,
    0x00000000000000000000000000000000000000000000ff10ff11ff12ff13ff14,
    0xff15ff16ff17ff18ff190000000000000000000000000000ff21ff22ff23ff24,
    0xff25ff26ff27ff28ff29ff2aff2bff2cff2dff2eff2fff30ff31ff32ff33ff34,
    0xff35ff36ff37ff38ff39ff3a000000000000000000000000ff41ff42ff43ff44,
    0xff45ff46ff47ff48ff49ff4aff4bff4cff4dff4eff4fff50ff51ff52ff53ff54,
    0xff55ff56ff57ff58ff59ff5a0000000000000000304130423043304430453046,
    0x304730483049304a304b304c304d304e304f3050305130523053305430553056,
    0x305730583059305a305b305c305d305e305f3060306130623063306430653066,
    0x306730683069306a306b306c306d306e306f3070307130723073307430753076,
    0x307730783079307a307b307c307d307e307f3080308130823083308430853086,
    0x308730883089308a308b308c308d308e308f3090309130923093000000000000,
    0x0000000000000000000000000000000030a130a230a330a430a530a630a730a8,
    0x30a930aa30ab30ac30ad30ae30af30b030b130b230b330b430b530b630b730b8,
    0x30b930ba30bb30bc30bd30be30bf30c030c130c230c330c430c530c630c730c8,
    0x30c930ca30cb30cc30cd30ce30cf30d030d130d230d330d430d530d630d730d8,
    0x30d930da30db30dc30dd30de30df30e030e130e230e330e430e530e630e730e8,
    0x30e930ea30eb30ec30ed30ee30ef30f030f130f230f330f430f530f600000000,
    0x000000000000000000000000039103920393039403950396039703980399039a,
    0x039b039c039d039e039f03a003a103a303a403a503a603a703a803a900000000,
    0x00000000000000000000000003b103b203b303b403b503b603b703b803b903ba,
    0x03bb03bc03bd03be03bf03c003c103c303c403c503c603c703c803c900000000,
    0,
    0,
    0x000000000000000004100411041204130414041504010416041704180419041a,
    0x041b041c041d041e041f0420042104220423042404250426042704280429042a,
    0x042b042c042d042e042f00000000000000000000000000000000000000000000,
    0x000000000000000004300431043204330434043504510436043704380439043a,
    0x043b043c043d043e043f0440044104420443044404450446044704480449044a,
    0x044b044c044d044e044f00000000000000000000000000000000000000000000,
    0x0000000025002502250c251025182514251c252c25242534253c25012503250f,
    0x2513251b251725232533252b253b254b2520252f25282537253f251d25302525,
    0x2538254200000000000000000000000000000000000000000000000000000000,
    0,
    0,
    0,
    0,
    0,
    0,
    0,
    0,
    0,
    0,
    0,
    0,
    0,
    0,
    0,
    0,
    0,
    0,
    0,
    0,
    0,
    0,
    0,
    0,
    0,
    0,
    0x0000000000000000000000000000000024602461246224632464246524662467,
    0x24682469246a246b246c246d246e246f24702471247224732160216121622163,
    0x2164216521662167216821690000334933143322334d33183327330333363351,
    0x3357330d33263323332b334a333b339c339d339e338e338f33c433a100000000,
    0x000000000000000000000000337b301d301f211633cd212132a432a532a632a7,
    0x32a8323132323239337e337d337c22522261222b222e2211221a22a52220221f,
    0x22bf22352229222a000000000000000000000000000000000000000000000000,
    0,
    0,
    0,
    0,
    0,
    0,
    0,
    0,
    0,
    0,
    0,
    0x000000004e9c55165a03963f54c0611b632859f690228475831c7a5060aa63e1,
    0x6e2565ed846682a69bf56893572765a162715b9b59d0867b98f47d627dbe9b8e,
    0x62167c9f88b75b895eb563096697684895c7978d674f4ee54f0a4f4d4f9d5049,
    0x56f2593759d45a015c0960df610f61706613690570ba754f757079fb7dad7def,
    0x80c3840e88638b029055907a533b4e954ea557df80b290c178ef4e0058f16ea2,
    0x90387a328328828b9c2f5141537054bd54e156e059fb5f1598f26deb80e4852d,
    0x9662967096a097fb540b53f35b8770cf7fbd8fc296e8536f9d5c7aba4e117893,
    0x81fc6e26561855046b1d851a9c3b59e553a96d6674dc958f56424e91904b96f2,
    0x834f990c53e155b65b305f71662066f368046c386cf36d29745b76c87a4e9834,
    0x82f1885b8a6092ed6db275ab76ca99c560a68b018d8a95b2698e53ad51865712,
    0x583059445bb45ef6602863a963f46cbf6f14708e7114715971d5733f7e018276,
    0x82d185979060925b9d1b586965bc6c5a752551f9592e59655f805fdc62bc65fa,
    0x6a2a6b276bb4738b7fc189569d2c9d0e9ec45ca16c96837b51045c4b61b681c6,
    0x687672614e594ffa537860696e297a4f97f34e0b53164eee4f554f3d4fa14f73,
    0x52a053ef5609590f5ac15bb65be179d16687679c67b66b4c6cb3706b73c2798d,
    0x79be7a3c7b8782b182db8304837783ef83d387668ab256298ca88fe6904e971e,
    0x868a4fc45ce862117259753b81e582bd86fe8cc096c5991399d54ecb4f1a89e3,
    0x56de584a58ca5efb5feb602a6094606261d0621262d065399b41666668b06d77,
    0x7070754c76867d7582a587f9958b968e8c9d51f152be591654b35bb35d166168,
    0x69826daf788d84cb88578a7293a79ab86d6c99a886d957a367ff86ce920e5283,
    0x568754045ed362e164b9683c68386bbb737278ba7a6b899a89d28d6b8f0390ed,
    0x95a3969497695b665cb3697d984d984e639b7b206a2b6a7f68b69c0d6f5f5272,
    0x559d607062ec6d3b6e076ed1845b89108f444e149c3953f6691b6a3a9784682a,
    0x515c7ac384b291dc938c565b9d286822830584317ca5520882c574e64e7e4f83,
    0x51a05bd2520a52d852e75dfb559a582a59e65b8c5b985bdb5e725e7960a3611f,
    0x616361be63db656267d1685368fa6b3e6b536c576f226f976f4574b0751876e3,
    0x770b7aff7ba17c217de97f367ff0809d8266839e89b38acc8cab908494519593,
    0x959195a2966597d3992882184e38542b5cb85dcc73a9764c773c5ca97feb8d0b,
    0x96c19811985498584f014f0e5371559c566857fa59475b095bc45c905e0c5e7e,
    0x5fcc63ee673a65d765e2671f68cb68c46a5f5e306bc56c176c7d757f79485b63,
    0x7a007d005fbd898f8a188cb48d778ecc8f1d98e29a0e9b3c4e80507d51005993,
    0x5b9c622f628064ec6b3a72a0759179477fa987fb8abc8b7063ac83ca97a05409,
    0x540355ab68546a588a70782767759ecd53745ba2811a865090064e184e454ec7,
    0x4f1153ca54385bae5f1360256551673d6c426c726ce3707874037a767aae7b08,
    0x7d1a7cfe7d6665e7725b53bb5c455de862d262e063196e20865a8a318ddd92f8,
    0x6f0179a69b5a4ea84eab4eac4f9b4fa050d151477af6517151f653545321537f,
    0x53eb55ac58835ce15f375f4a602f6050606d631f65596a4b6cc172c272ed77ef,
    0x80f881058208854e90f793e197ff99579a5a4ef051dd5c2d6681696d5c4066f2,
    0x6975738968507c8150c552e457475dfe932665a46b236b3d7434798179bd7b4b,
    0x7dca82b983cc887f895f8b398fd191d1541f92804e5d503653e5533a72d77396,
    0x77e982e68eaf99c699c899d25177611a865e55b07a7a50765bd3904796854e32,
    0x6adb91e75c515c4863987a9f6c9397748f617aaa718a96887c8268177e706851,
    0x936c52f2541b85ab8a137fa48ecd90e15366888879414fc250be521151445553,
    0x572d73ea578b59515f625f8460756176616761a963b2643a656c666f68426e13,
    0x75667a3d7cfb7d4c7d997e4b7f6b830e834a86cd8a088a638b668efd981a9d8f,
    0x82b88fce9be85287621f64836fc09699684150916b206c7a6f547a747d508840,
    0x8a2367084ef6503950265065517c5238526355a7570f58055acc5efa61b261f8,
    0x62f36372691c6a29727d72ac732e7814786f7d79770c80a9898b8b198ce28ed2,
    0x90639375967a98559a139e785143539f53b35e7b5f266e1b6e90738473fe7d43,
    0x82378a008afa96504e4e500b53e4547c56fa59d15b645df15eab5f2762386545,
    0x67af6e5672d07cca88b480a180e183f0864e8a878de8923796c798679f134e94,
    0x4e924f0d53485449543e5a2f5f8c5fa1609f68a76a8e745a78818a9e8aa48b77,
    0x91904e5e9bc94ea44f7c4faf501950165149516c529f52b952fe539a53e35411,
    0x540e5589575157a2597d5b545b5d5b8f5de55de75df75e785e835e9a5eb75f18,
    0x6052614c629762d863a7653b6602664366f4676d6821689769cb6c5f6d2a6d69,
    0x6e2f6e9d75327687786c7a3f7ce07d057d187d5e7db18015800380af80b18154,
    0x818f822a8352884c88618b1b8ca28cfc90ca91759271783f92fc95a4964d9805,
    0x99999ad89d3b525b52ab53f7540858d562f76fe08c6a8f5f9eb9514b523b544a,
    0x56fd7a4091779d609ed273446f09817075115ffd60da9aa872db8fbc6b649803,
    0x4eca56f0576458be5a5a606861c7660f6606683968b16df775d57d3a826e9b42,
    0x4e9b4f5053c955065d6f5de65dee67fb6c99747378028a50939688df57505ea7,
    0x632b50b550ac518d670054c9585e59bb5bb05f69624d63a1683d6b736e08707d,
    0x91c7728078157826796d658e7d3083dc88c18f09969b5264572867507f6a8ca1,
    0x51b45742962a583a698a80b454b25d0e57fc78959dfa4f5c524a548b643e6628,
    0x671467f57a847b567d22932f685c9bad7b395319518a52375bdf62f664ae64e6,
    0x672d6bba85a996d176909bd6634c93069bab76bf66524e09509853c25c7160e8,
    0x64926563685f71e673ca75237b977e8286958b838cdb9178991065ac66ab6b8b,
    0x4ed54ed44f3a4f7f523a53f853f255e356db58eb59cb59c959ff5b505c4d5e02,
    0x5e2b5fd7601d6307652f5b5c65af65bd65e8679d6b626b7b6c0f7345794979c1,
    0x7cf87d197d2b80a2810281f389968a5e8a698a668a8c8aee8cc78cdc96cc98fc,
    0x6b6f4e8b4f3c4f8d51505b575bfa6148630166426b216ecb6cbb723e74bd75d4,
    0x78c1793a800c803381ea84948f9e6c509e7f5f0f8b589d2b7afa8ef85b8d96eb,
    0x4e0353f157f759315ac95ba460896e7f6f0675be8cea5b9f85007be0507267f4,
    0x829d5c61854a7e1e820e51995c0463688d66659c716e793e7d1780058b1d8eca,
    0x906e86c790aa501f52fa5c3a6753707c7235914c91c8932b82e55bc25f3160f9,
    0x4e3b53d65b88624b67316b8a72e973e07a2e816b8da391529996511253d7546a,
    0x5bff63886a397dac970056da53ce54685b975c315dde4fee610162fe6d3279c0,
    0x79cb7d427e4d7fd281ed821f8490884689728b908e748f2f9031914b916c96c6,
    0x919c4ec04f4f514553415f93620e67d46c416e0b73637e2691cd928353d45919,
    0x5bbf6dd1795d7e2e7c9b587e719f51fa88538ff04fca5cfb662577ac7ae3821c,
    0x99ff51c65faa65ec696f6b896df36e966f6476fe7d145de190759187980651e6,
    0x521d6240669166d96e1a5eb67dd27f7266f885af85f78af852a953d959735e8f,
    0x5f90605592e4966450b7511f52dd5320534753ec54e8554655315617596859be,
    0x5a3c5bb55c065c0f5c115c1a5e845e8a5ee05f70627f628462db638c63776607,
    0x660c662d6676677e68a26a1f6a356cbc6d886e096e58713c7126716775c77701,
    0x785d7901796579f07ae07b117ca77d39809683d6848b8549885d88f38a1f8a3c,
    0x8a548a738c618cde91a49266937e9418969c97984e0a4e084e1e4e5751975270,
    0x57ce583458cc5b225e3860c564fe676167566d4472b675737a6384b88b7291b8,
    0x9320563157f498fe62ed690d6b9671ed7e548077827289e698df87558fb15c3b,
    0x4f384fe14fb555075a205bdd5be95fc3614e632f65b0664b68ee699b6d786df1,
    0x753375b9771f795e79e67d3381e382af85aa89aa8a3a8eab8f9b903291dd9707,
    0x4eba4ec15203587558ec5c0b751a5c3d814e8a0a8fc59663976d7b258acf9808,
    0x916256f353a89017543957825e2563a86c34708a77617c8b7fe0887090429154,
    0x93109318968f745e9ac45d075d69657067a28da896db636e6749691983c59817,
    0x96c088fe6f84647a5bf84e16702c755d662f51c4523652e259d35f8160276210,
    0x653f6574661f667468f268166b636e057272751f76db7cbe805658f088fd897f,
    0x8aa08a938acb901d91929752975965897a0e810696bb5e2d60dc621a65a56614,
    0x679077f37a4d7c4d7e3e810a8cac8d648de18e5f78a9520762d963a564426298,
    0x8a2d7a837bc08aac96ea7d76820c87494ed95148534353605ba35c025c165ddd,
    0x6226624764b0681368346cc96d456d1767d36f5c714e717d65cb7a7f7bad7dda,
    0x7e4a7fa8817a821b823985a68a6e8cce8df59078907792ad929195839bae524d,
    0x55846f387136516879857e5581b37cce564c58515ca863aa66fe66fd695a72d9,
    0x758f758e790e795679df7c977d207d4486078a34963b90619f2050e7527553cc,
    0x53e2500955aa58ee594f723d5b8b5c64531d60e360f3635c6383633f63bb64cd,
    0x65e966f95de369cd69fd6f1571e54e8975e976f87a937cdf7dcf7d9c80618349,
    0x8358846c84bc85fb88c58d709001906d9397971c9a1250cf5897618e81d38535,
    0x8d0890204fc3507452475373606f6349675f6e2c8db3901f4fd75c5e8cca65cf,
    0x7d9a53528896517663c35b585b6b5c0a640d6751905c4ed6591a592a6c708a51,
    0x553e581559a560f0625367c182356955964099c49a284f5358065bfe80105cb1,
    0x5e2f5f856020614b623466ff6cf06ede80ce817f82d4888b8cb89000902e968a,
    0x9edb9bdb4ee353f059277b2c918d984c9df96edd7027535355445b856258629e,
    0x62d36ca26fef74228a1794386fc18afe833851e786f853ea53e94f4690548fb0,
    0x596a81315dfd7aea8fbf68da8c3772f89c486a3d8ab04e3953585606576662c5,
    0x63a265e66b4e6de16e5b70ad77ed7aef7baa7dbb803d80c686cb8a95935b56e3,
    0x58c75f3e65ad66966a806bb575378ac7502477e557305f1b6065667a6c6075f4,
    0x7a1a7f6e81f48718904599b37bc9755c7af97b5184c4901079e97a9283365ae1,
    0x77404e2d4ef25b995fe062bd663c67f16ce8866b88778a3b914e92f399d06a17,
    0x7026732a82e784578caf4e01514651cb558b5bf55e165e335e815f145f355f6b,
    0x5fb461f2631166a2671d6f6e7252753a773a80748139817887768abf8adc8d85,
    0x8df3929a957798029ce552c5635776f467156c8873cd8cc393ae96736d25589c,
    0x690e69cc8ffd939a75db901a585a680263b469fb4f436f2c67d88fbb85267db4,
    0x9354693f6f70576a58f75b2c7d2c722a540a91e39db44ead4f4e505c50755243,
    0x8c9e544858245b9a5e1d5e955ead5ef75f1f608c62b5633a63d068af6c407887,
    0x798e7a0b7de082478a028ae68e44901390b8912d91d89f0e6ce5645864e26575,
    0x6ef476847b1b906993d16eba54f25fb964a48f4d8fed92445178586b59295c55,
    0x5e976dfb7e8f751c8cbc8ee2985b70b94f1d6bbf6fb1753096fb514e54105835,
    0x585759ac5c605f926597675c6e21767b83df8ced901490fd934d7825783a52aa,
    0x5ea6571f597460125012515a51ac51cd520055105854585859575b955cf65d8b,
    0x60bc6295642d6771684368bc68df76d76dd86e6f6d9b706f71c85f5375d87977,
    0x7b497b547b527cd67d7152308463856985e48a0e8b048c468e0f9003900f9419,
    0x9676982d9a3095d850cd52d5540c58025c0e61a7649e6d1e77b37ae580f48404,
    0x905392855ce09d07533f5f975fb36d9c7279776379bf7be46bd272ec8aad6803,
    0x6a6151f87a8169345c4a9cf682eb5bc59149701e56785c6f60c765666c8c8c5a,
    0x90419813545166c7920d594890a351854e4d51ea85998b0e7058637a934b6962,
    0x99b47e047577535769608edf96e36c5d4e8c5c3c5f108fe953028cd180898679,
    0x5eff65e54e73516559825c3f97ee4efb598a5fcd8a8d6fe179b079625be78471,
    0x732b71b15e745ff5637b649a71c37c984e435efc4e4b57dc56a260a96fc37d0d,
    0x80fd813381bf8fb2899786a45df4628a64ad898767776ce26d3e743678345a46,
    0x7f7582ad99ac4ff35ec362dd63926557676f76c3724c80cc80ba8f29914d500d,
    0x57f95a9268856973716472fd8cb758f28ce0966a9019877f79e477e784294f2f,
    0x5265535a62cd67cf6cca767d7b947c95823685848feb66dd6f2072067e1b83ab,
    0x99c19ea651fd7bb178727bb880877b486ae85e61808c75517560516b92626e8c,
    0x767a91979aea4f107f70629c7b4f95a59ce9567a585986e496bc4f345224534a,
    0x53cd53db5e06642c6591677f6c3e6c4e724872af73ed75547e41822c85e98ca9,
    0x7bc491c67169981298ef633d6669756a76e478d0854386ee532a535154265983,
    0x5e875f7c60b26249627962ab65906bd46ccc75b276ae789179d87dcb7f7780a5,
    0x88ab8ab98cbb907f975e98db6a0b7c3850995c3e5fae67876bd8743577097f8e,
    0x9f3b67ca7a175339758b9aed5f66819d83f180985f3c5fc575627b46903c6867,
    0x59eb5a9b7d10767e8b2c4ff55f6a6a196c376f0274e2796888688a558c795edf,
    0x63cf75c579d282d7932892f2849c86ed9c2d54c15f6c658c6d5c70158ca78cd3,
    0x983b654f74f64e0d4ed857e0592b5a665bcc51a85e035e9c60166276657765a7,
    0x666e6d6e72367b268150819a82998b5c8ca08ce68d74961c96444fae64ab6b66,
    0x821e8461856a90e85c01695398a8847a85574f0f526f5fa95e45670d798f8179,
    0x890789866df55f1762556cb84ecf72699b925206543b567458b361a4626e711a,
    0x596e7c897cde7d1b96f06587805e4e194f75517558405e635e735f0a67c44e26,
    0x853d9589965b7c73980150fb58c1765678a7522577a585117b86504f59097247,
    0x7bc77de88fba8fd4904d4fbf52c95a295f0197ad4fdd821792ea570363556b69,
    0x752b88dc8f147a4252df58936155620a66ae6bcd7c3f83e950234ff853055446,
    0x583159495b9d5cf05cef5d295e9662b16367653e65b9670b6cd56ce170f97832,
    0x7e2b80de82b3840c84ec870289128a2a8c4a90a692d298fd9cf39d6c4e4f4ea1,
    0x508d5256574a59a85e3d5fd85fd9623f66b4671b67d068d251927d2180aa81a8,
    0x8b008c8c8cbf927e96325420982c531750d5535c58a864b26734726777667a46,
    0x91e652c36ca16b8658005e4c5954672c7ffb51e176c6646978e89b549ebb57cb,
    0x59b96627679a6bce54e969d95e55819c67959baa67fe9c52685d4ea64fe353c8,
    0x62b9672b6cab8fc44fad7e6d9ebf4e0761626e806f2b85135473672a9b455df3,
    0x7b955cac5bc6871c6e4a84d17a14810859997c8d6c11772052d959227121725f,
    0x77db97279d61690b5a7f5a1851a5540d547d660e76df8ff792989cf459ea725d,
    0x6ec5514d68c97dbf7dec97629eba64786a21830259845b5f6bdb731b76f27db2,
    0x80178499513267289ed976ee676252ff99055c24623b7c7e8cb0554f60b67d0b,
    0x958053014e5f51b6591c723a803691ce5f2577e253845f797d0485ac8a338e8d,
    0x975667f385ae9453610961086cb976528aed8f38552f4f51512a52c753cb5ba5,
    0x5e7d60a0618263d6670967da6e676d8c733673377531795088d58a98904a9091,
    0x90f596c4878d59154e884f594e0e8a898f3f981050ad5e7c59965bb95eb863da,
    0x63fa64c166dc694a69d86d0b6eb6719475287aaf7f8a8000844984c989818b21,
    0x8e0a9065967d990a617e62916b326c836d747fcc7ffc6dc07f8587ba88f86765,
    0x83b1983c96f76d1b7d61843d916a4e7153755d506b046feb85cd862d89a75229,
    0x540f5c65674e68a87406748375e288cf88e191cc96e296785f8b73877acb844e,
    0x63a0756552896d416e9c74097559786b7c9296867adc9f8d4fb6616e65c5865c,
    0x4e864eae50da4e2151cc5bee659968816dbc731f764277ad7a1c7ce7826f8ad2,
    0x907c91cf96759818529b7dd1502b539867976dcb71d0743381e88f2a96a39c57,
    0x9e9f746058416d997d2f985e4ee44f364f8b51b752b15dba601c73b2793c82d3,
    0x923496b796f6970a9e979f6266a66b74521752a370c888c25ec9604b61906f23,
    0x71497c3e7df4806f84ee9023932c54429b6f6ad370898cc28def973252b45a41,
    0x5eca5f046717697c69946d6a6f0f726272fc7bed8001807e874b90ce516d9e93,
    0x7984808b93328ad6502d548c8a716b6a8cc4810760d167a09df24e994e989c10,
    0x8a6b85c1856869006e7e78978155000000000000000000000000000000000000,
    0,
    0,
    0x000000005f0c4e104e154e2a4e314e364e3c4e3f4e424e564e584e824e858c6b,
    0x4e8a82125f0d4e8e4e9e4e9f4ea04ea24eb04eb34eb64ece4ecd4ec44ec64ec2,
    0x4ed74ede4eed4edf4ef74f094f5a4f304f5b4f5d4f574f474f764f884f8f4f98,
    0x4f7b4f694f704f914f6f4f864f9651184fd44fdf4fce4fd84fdb4fd14fda4fd0,
    0x4fe44fe5501a50285014502a502550054f1c4ff650215029502c4ffe4fef5011,
    0x5006504350476703505550505048505a5056506c50785080509a508550b450b2,
    0x50c950ca50b350c250d650de50e550ed50e350ee50f950f55109510151025116,
    0x51155114511a5121513a5137513c513b513f51405152514c515451627af85169,
    0x516a516e5180518256d8518c5189518f519151935195519651a451a651a251a9,
    0x51aa51ab51b351b151b251b051b551bd51c551c951db51e0865551e951ed51f0,
    0x51f551fe5204520b5214520e5227522a522e52335239524f5244524b524c525e,
    0x5254526a527452695273527f527d528d529452925271528852918fa88fa752ac,
    0x52ad52bc52b552c152cd52d752de52e352e698ed52e052f352f552f852f95306,
    0x53087538530d5310530f5315531a5323532f5331533353385340534653454e17,
    0x5349534d51d6535e5369536e5918537b53775382539653a053a653a553ae53b0,
    0x53b653c37c1296d953df66fc71ee53ee53e853ed53fa5401543d5440542c542d,
    0x543c542e54365429541d544e548f5475548e545f5471547754705492547b5480,
    0x547654845490548654c754a254b854a554ac54c454c854a854ab54c254a454be,
    0x54bc54d854e554e6550f551454fd54ee54ed54fa54e2553955405563554c552e,
    0x555c55455556555755385533555d5599558054af558a559f557b557e5598559e,
    0x55ae557c558355a9558755a855da55c555df55c455dc55e455d4561455f75616,
    0x55fe55fd561b55f9564e565071df5634563656325638566b5664562f566c566a,
    0x56865680568a56a05694568f56a556ae56b656b456c256bc56c156c356c056c8,
    0x56ce56d156d356d756ee56f9570056ff570457095708570b570d571357185716,
    0x55c7571c572657375738574e573b5740574f576957c057885761577f57895793,
    0x57a057b357a457aa57b057c357c657d457d257d3580a57d657e3580b5819581d,
    0x587258215862584b58706bc05852583d5879588558b9589f58ab58ba58de58bb,
    0x58b858ae58c558d358d158d758d958d858e558dc58e458df58ef58fa58f958fb,
    0x58fc58fd5902590a5910591b68a65925592c592d59325938593e7ad259555950,
    0x594e595a5958596259605967596c596959785981599d4f5e4fab59a359b259c6,
    0x59e859dc598d59d959da5a255a1f5a115a1c5a095a1a5a405a6c5a495a355a36,
    0x5a625a6a5a9a5abc5abe5acb5ac25abd5ae35ad75ae65ae95ad65afa5afb5b0c,
    0x5b0b5b165b325ad05b2a5b365b3e5b435b455b405b515b555b5a5b5b5b655b69,
    0x5b705b735b755b7865885b7a5b805b835ba65bb85bc35bc75bc95bd45bd05be4,
    0x5be65be25bde5be55beb5bf05bf65bf35c055c075c085c0d5c135c205c225c28,
    0x5c385c395c415c465c4e5c535c505c4f5b715c6c5c6e4e625c765c795c8c5c91,
    0x5c94599b5cab5cbb5cb65cbc5cb75cc55cbe5cc75cd95ce95cfd5cfa5ced5d8c,
    0x5cea5d0b5d155d175d5c5d1f5d1b5d115d145d225d1a5d195d185d4c5d525d4e,
    0x5d4b5d6c5d735d765d875d845d825da25d9d5dac5dae5dbd5d905db75dbc5dc9,
    0x5dcd5dd35dd25dd65ddb5deb5df25df55e0b5e1a5e195e115e1b5e365e375e44,
    0x5e435e405e4e5e575e545e5f5e625e645e475e755e765e7a9ebc5e7f5ea05ec1,
    0x5ec25ec85ed05ecf5ed65ee35edd5eda5edb5ee25ee15ee85ee95eec5ef15ef3,
    0x5ef05ef45ef85efe5f035f095f5d5f5c5f0b5f115f165f295f2d5f385f415f48,
    0x5f4c5f4e5f2f5f515f565f575f595f615f6d5f735f775f835f825f7f5f8a5f88,
    0x5f915f875f9e5f995f985fa05fa85fad5fbc5fd65ffb5fe45ff85ff15fdd60b3,
    0x5fff60216060601960106029600e6031601b6015602b6026600f603a605a6041,
    0x606a6077605f604a6046604d6063604360646042606c606b60596081608d60e7,
    0x6083609a6084609b60966097609260a7608b60e160b860e060d360b45ff060bd,
    0x60c660b560d8614d6115610660f660f7610060f460fa6103612160fb60f1610d,
    0x610e6147613e61286127614a613f613c612c6134613d61426144617361776158,
    0x6159615a616b6174616f61656171615f615d6153617561996196618761ac6194,
    0x619a618a619161ab61ae61cc61ca61c961f761c861c361c661ba61cb7f7961cd,
    0x61e661e361f661fa61f461ff61fd61fc61fe620062086209620d620c6214621b,
    0x621e6221622a622e6230623262336241624e625e6263625b62606268627c6282,
    0x6289627e62926293629662d46283629462d762d162bb62cf62ff62c664d462c8,
    0x62dc62cc62ca62c262c7629b62c9630c62ee62f163276302630862ef62f56350,
    0x633e634d641c634f6396638e638063ab637663a3638f6389639f63b5636b6369,
    0x63be63e963c063c663e363c963d263f663c4641664346406641364266436651d,
    0x64176428640f6467646f6476644e652a6495649364a564a9648864bc64da64d2,
    0x64c564c764bb64d864c264f164e7820964e064e162ac64e364ef652c64f664f4,
    0x64f264fa650064fd6518651c650565246523652b65346535653765366538754b,
    0x654865566555654d6558655e655d65726578658265838b8a659b659f65ab65b7,
    0x65c365c665c165c465cc65d265db65d965e065e165f16772660a660365fb6773,
    0x663566366634661c664f664466496641665e665d666466676668665f66626670,
    0x66836688668e668966846698669d66c166b966c966be66bc66c466b866d666da,
    0x66e0663f66e666e966f066f566f7670f6716671e672667279738672e673f6736,
    0x6741673867376746675e67606759676367646789677067a9677c676a678c678b,
    0x67a667a1678567b767ef67b467ec67b367e967b867e467de67dd67e267ee67b9,
    0x67ce67c667e76a9c681e684668296840684d6832684e68b3682b685968636877,
    0x687f689f688f68ad6894689d689b68836aae68b9687468b568a068ba690f688d,
    0x687e690168ca690868d86922692668e1690c68cd68d468e768d5693669126904,
    0x68d768e3692568f968e068ef6928692a691a6923692168c669796977695c6978,
    0x696b6954697e696e69396974693d695969306961695e695d6981696a69b269ae,
    0x69d069bf69c169d369be69ce5be869ca69dd69bb69c369a76a2e699169a0699c,
    0x699569b469de69e86a026a1b69ff6b0a69f969f269e76a0569b16a1e69ed6a14,
    0x69eb6a0a6a126ac16a236a136a446a0c6a726a366a786a476a626a596a666a48,
    0x6a386a226a906a8d6aa06a846aa26aa36a9786176abb6ac36ac26ab86ab36aac,
    0x6ade6ad16adf6aaa6ada6aea6afb6b0586166afa6b126b169b316b1f6b386b37,
    0x76dc6b3998ee6b476b436b496b506b596b546b5b6b5f6b616b786b796b7f6b80,
    0x6b846b836b8d6b986b956b9e6ba46baa6bab6baf6bb26bb16bb36bb76bbc6bc6,
    0x6bcb6bd36bdf6bec6beb6bf36bef9ebe6c086c136c146c1b6c246c236c5e6c55,
    0x6c626c6a6c826c8d6c9a6c816c9b6c7e6c686c736c926c906cc46cf16cd36cbd,
    0x6cd76cc56cdd6cae6cb16cbe6cba6cdb6cef6cd96cea6d1f884d6d366d2b6d3d,
    0x6d386d196d356d336d126d0c6d636d936d646d5a6d796d596d8e6d956fe46d85,
    0x6df96e156e0a6db56dc76de66db86dc66dec6dde6dcc6de86dd26dc56dfa6dd9,
    0x6de46dd56dea6dee6e2d6e6e6e2e6e196e726e5f6e3e6e236e6b6e2b6e766e4d,
    0x6e1f6e436e3a6e4e6e246eff6e1d6e386e826eaa6e986ec96eb76ed36ebd6eaf,
    0x6ec46eb26ed46ed56e8f6ea56ec26e9f6f416f11704c6eec6ef86efe6f3f6ef2,
    0x6f316eef6f326ecc6f3e6f136ef76f866f7a6f786f816f806f6f6f5b6ff36f6d,
    0x6f826f7c6f586f8e6f916fc26f666fb36fa36fa16fa46fb96fc66faa6fdf6fd5,
    0x6fec6fd46fd86ff16fee6fdb7009700b6ffa70117001700f6ffe701b701a6f74,
    0x701d7018701f7030703e7032705170637099709270af70f170ac70b870b370ae,
    0x70df70cb70dd70d9710970fd711c711971657155718871667162714c7156716c,
    0x718f71fb7184719571a871ac71d771b971be71d271c971d471ce71e071ec71e7,
    0x71f571fc71f971ff720d7210721b7228722d722c72307232723b723c723f7240,
    0x7246724b72587274727e7282728172877292729672a272a772b972b272c372c6,
    0x72c472ce72d272e272e072e172f972f7500f7317730a731c7316731d7334732f,
    0x73297325733e734e734f9ed87357736a7368737073787375737b737a73c873b3,
    0x73ce73bb73c073e573ee73de74a27405746f742573f87432743a7455743f745f,
    0x74597441745c746974707463746a7476747e748b749e74a774ca74cf74d473f1,
    0x74e074e374e774e974ee74f274f074f174f874f7750475037505750c750e750d,
    0x75157513751e7526752c753c7544754d754a7549755b7546755a756975647567,
    0x756b756d75787576758675877574758a758975827594759a759d75a575a375c2,
    0x75b375c375b575bd75b875bc75b175cd75ca75d275d975e375de75fe75ff75fc,
    0x760175f075fa75f275f3760b760d7609761f7627762076217622762476347630,
    0x763b764776487646765c76587661766276687669766a7667766c767076727676,
    0x7678767c768076837688768b768e769676937699769a76b076b476b876b976ba,
    0x76c276cd76d676d276de76e176e576e776ea862f76fb77087707770477297724,
    0x771e77257726771b773777387747775a7768776b775b7765777f777e7779778e,
    0x778b779177a0779e77b077b677b977bf77bc77bd77bb77c777cd77d777da77dc,
    0x77e377ee77fc780c781279267820792a7845788e78747886787c789a788c78a3,
    0x78b578aa78af78d178c678cb78d478be78bc78c578ca78ec78e778da78fd78f4,
    0x7907791279117919792c792b794079607957795f795a79557953797a797f798a,
    0x799d79a79f4b79aa79ae79b379b979ba79c979d579e779ec79e179e37a087a0d,
    0x7a187a197a207a1f79807a317a3b7a3e7a377a437a577a497a617a627a699f9d,
    0x7a707a797a7d7a887a977a957a987a967aa97ac87ab07ab67ac57ac47abf9083,
    0x7ac77aca7acd7acf7ad57ad37ad97ada7add7ae17ae27ae67aed7af07b027b0f,
    0x7b0a7b067b337b187b197b1e7b357b287b367b507b7a7b047b4d7b0b7b4c7b45,
    0x7b757b657b747b677b707b717b6c7b6e7b9d7b987b9f7b8d7b9c7b9a7b8b7b92,
    0x7b8f7b5d7b997bcb7bc17bcc7bcf7bb47bc67bdd7be97c117c147be67be57c60,
    0x7c007c077c137bf37bf77c177c0d7bf67c237c277c2a7c1f7c377c2b7c3d7c4c,
    0x7c437c547c4f7c407c507c587c5f7c647c567c657c6c7c757c837c907ca47cad,
    0x7ca27cab7ca17ca87cb37cb27cb17cae7cb97cbd7cc07cc57cc27cd87cd27cdc,
    0x7ce29b3b7cef7cf27cf47cf67cfa7d067d027d1c7d157d0a7d457d4b7d2e7d32,
    0x7d3f7d357d467d737d567d4e7d727d687d6e7d4f7d637d937d897d5b7d8f7d7d,
    0x7d9b7dba7dae7da37db57dc77dbd7dab7e3d7da27daf7ddc7db87d9f7db07dd8,
    0x7ddd7de47dde7dfb7df27de17e057e0a7e237e217e127e317e1f7e097e0b7e22,
    0x7e467e667e3b7e357e397e437e377e327e3a7e677e5d7e567e5e7e597e5a7e79,
    0x7e6a7e697e7c7e7b7e837dd57e7d8fae7e7f7e887e897e8c7e927e907e937e94,
    0x7e967e8e7e9b7e9c7f387f3a7f457f4c7f4d7f4e7f507f517f557f547f587f5f,
    0x7f607f687f697f677f787f827f867f837f887f877f8c7f947f9e7f9d7f9a7fa3,
    0x7faf7fb27fb97fae7fb67fb88b717fc57fc67fca7fd57fd47fe17fe67fe97ff3,
    0x7ff998dc80068004800b801280188019801c80218028803f803b804a80468052,
    0x8058805a805f8062806880738072807080768079807d807f808480868085809b,
    0x8093809a80ad519080ac80db80e580d980dd80c480da80d6810980ef80f1811b,
    0x81298123812f814b968b8146813e8153815180fc8171816e8165816681748183,
    0x8188818a8180818281a0819581a481a3815f819381a981b081b581be81b881bd,
    0x81c081c281ba81c981cd81d181d981d881c881da81df81e081e781fa81fb81fe,
    0x8201820282058207820a820d821082168229822b82388233824082598258825d,
    0x825a825f826482628268826a826b822e827182778278827e828d829282ab829f,
    0x82bb82ac82e182e382df82d282f482f382fa8393830382fb82f982de830682dc,
    0x830982d9833583348316833283318340833983508345832f832b831783188385,
    0x839a83aa839f83a283968323838e8387838a837c83b58373837583a0838983a8,
    0x83f4841383eb83ce83fd840383d8840b83c183f7840783e083f2840d84228420,
    0x83bd8438850683fb846d842a843c855a84848477846b84ad846e848284698446,
    0x842c846f8479843584ca846284b984bf849f84d984cd84bb84da84d084c184c6,
    0x84d684a1852184ff84f485178518852c851f8515851484fc8540856385588548,
    0x85418602854b8555858085a485888591858a85a8856d8594859b85ea8587859c,
    0x8577857e859085c985ba85cf85b985d085d585dd85e585dc85f9860a8613860b,
    0x85fe85fa86068622861a8630863f864d4e558654865f86678671869386a386a9,
    0x86aa868b868c86b686af86c486c686b086c9882386ab86d486de86e986ec86df,
    0x86db86ef8712870687088700870386fb87118709870d86f9870a8734873f8737,
    0x873b87258729871a8760875f8778874c874e877487578768876e875987538763,
    0x876a880587a2879f878287af87cb87bd87c087d096d687ab87c487b387c787c6,
    0x87bb87ef87f287e0880f880d87fe87f687f7880e87d288118816881588228821,
    0x8831883688398827883b8844884288528859885e8862886b8881887e889e8875,
    0x887d88b5887288828897889288ae889988a2888d88a488b088bf88b188c388c4,
    0x88d488d888d988dd88f9890288fc88f488e888f28904890c890a89138943891e,
    0x8925892a892b89418944893b89368938894c891d8960895e89668964896d896a,
    0x896f89748977897e89838988898a8993899889a189a989a689ac89af89b289ba,
    0x89bd89bf89c089da89dc89dd89e789f489f88a038a168a108a0c8a1b8a1d8a25,
    0x8a368a418a5b8a528a468a488a7c8a6d8a6c8a628a858a828a848aa88aa18a91,
    0x8aa58aa68a9a8aa38ac48acd8ac28ada8aeb8af38ae78ae48af18b148ae08ae2,
    0x8af78ade8adb8b0c8b078b1a8ae18b168b108b178b208b3397ab8b268b2b8b3e,
    0x8b288b418b4c8b4f8b4e8b498b568b5b8b5a8b6b8b5f8b6c8b6f8b748b7d8b80,
    0x8b8c8b8e8b928b938b968b998b9a8c3a8c418c3f8c488c4c8c4e8c508c558c62,
    0x8c6c8c788c7a8c828c898c858c8a8c8d8c8e8c948c7c8c98621d8cad8caa8cbd,
    0x8cb28cb38cae8cb68cc88cc18ce48ce38cda8cfd8cfa8cfb8d048d058d0a8d07,
    0x8d0f8d0d8d109f4e8d138ccd8d148d168d678d6d8d718d738d818d998dc28dbe,
    0x8dba8dcf8dda8dd68dcc8ddb8dcb8dea8deb8ddf8de38dfc8e088e098dff8e1d,
    0x8e1e8e108e1f8e428e358e308e348e4a8e478e498e4c8e508e488e598e648e60,
    0x8e2a8e638e558e768e728e7c8e818e878e858e848e8b8e8a8e938e918e948e99,
    0x8eaa8ea18eac8eb08ec68eb18ebe8ec58ec88ecb8edb8ee38efc8efb8eeb8efe,
    0x8f0a8f058f158f128f198f138f1c8f1f8f1b8f0c8f268f338f3b8f398f458f42,
    0x8f3e8f4c8f498f468f4e8f578f5c8f628f638f648f9c8f9f8fa38fad8faf8fb7,
    0x8fda8fe58fe28fea8fef90878ff490058ff98ffa901190159021900d901e9016,
    0x900b90279036903590398ff8904f905090519052900e9049903e90569058905e,
    0x9068906f907696a890729082907d90819080908a9089908f90a890af90b190b5,
    0x90e290e4624890db91029112911991329130914a915691589163916591699173,
    0x9172918b9189918291a291ab91af91aa91b591b491ba91c091c191c991cb91d0,
    0x91d691df91e191db91fc91f591f6921e91ff9214922c92159211925e92579245,
    0x9249926492489295923f924b9250929c92969293929b925a92cf92b992b792e9,
    0x930f92fa9344932e93199322931a9323933a9335933b935c9360937c936e9356,
    0x93b093ac93ad939493b993d693d793e893e593d893c393dd93d093c893e4941a,
    0x941494139403940794109436942b94359421943a944194529444945b94609462,
    0x945e946a9229947094759477947d945a947c947e9481947f95829587958a9594,
    0x95969598959995a095a895a795ad95bc95bb95b995be95ca6ff695c395cd95cc,
    0x95d595d495d695dc95e195e595e296219628962e962f9642964c964f964b9677,
    0x965c965e965d965f96669672966c968d96989695969796aa96a796b196b296b0,
    0x96b496b696b896b996ce96cb96c996cd894d96dc970d96d596f9970497069708,
    0x9713970e9711970f971697199724972a97309739973d973e9744974697489742,
    0x9749975c976097649766976852d2976b977197799785977c9781977a9786978b,
    0x978f9790979c97a897a697a397b397b497c397c697c897cb97dc97ed9f4f97f2,
    0x7adf97f697f5980f980c9838982498219837983d9846984f984b986b986f9870,
    0x98719874987398aa98af98b198b698c498c398c698e998eb9903990999129914,
    0x99189921991d991e99249920992c992e993d993e9942994999459950994b9951,
    0x9952994c99559997999899a599ad99ae99bc99df99db99dd99d899d199ed99ee,
    0x99f199f299fb99f89a019a0f9a0599e29a199a2b9a379a459a429a409a439a3e,
    0x9a559a4d9a5b9a579a5f9a629a659a649a699a6b9a6a9aad9ab09abc9ac09acf,
    0x9ad19ad39ad49ade9adf9ae29ae39ae69aef9aeb9aee9af49af19af79afb9b06,
    0x9b189b1a9b1f9b229b239b259b279b289b299b2a9b2e9b2f9b329b449b439b4f,
    0x9b4d9b4e9b519b589b749b939b839b919b969b979b9f9ba09ba89bb49bc09bca,
    0x9bb99bc69bcf9bd19bd29be39be29be49bd49be19c3a9bf29bf19bf09c159c14,
    0x9c099c139c0c9c069c089c129c0a9c049c2e9c1b9c259c249c219c309c479c32,
    0x9c469c3e9c5a9c609c679c769c789ce79cec9cf09d099d089ceb9d039d069d2a,
    0x9d269daf9d239d1f9d449d159d129d419d3f9d3e9d469d489d5d9d5e9d649d51,
    0x9d509d599d729d899d879dab9d6f9d7a9d9a9da49da99db29dc49dc19dbb9db8,
    0x9dba9dc69dcf9dc29dd99dd39df89de69ded9def9dfd9e1a9e1b9e1e9e759e79,
    0x9e7d9e819e889e8b9e8c9e929e959e919e9d9ea59ea99eb89eaa9ead97619ecc,
    0x9ece9ecf9ed09ed49edc9ede9edd9ee09ee59ee89eef9ef49ef69ef79ef99efb,
    0x9efc9efd9f079f0876b79f159f219f2c9f3e9f4a9f529f549f639f5f9f609f61,
    0x9f669f679f6c9f6a9f779f729f769f959f9c9fa0582f69c79059746451dc7199,
    0,
    0,
    0,
    0,
    0,
    0,
    0,
    0,
    0,
    0,
    0,
    0,
    0,
    0,
    0,
    0,
    0,
    0,
    0,
    0,
    0,
    0,
    0,
    0,
    0,
    0,
    0,
    0,
    0,
    0x7e8a891c9348928884dc4fc970bb663168c892f966fb5f454e284ee14efc4f00,
    0x4f034f394f564f924f8a4f9a4f944fcd504050224fff501e5046507050425094,
    0x50f450d8514a5164519d51be51ec5215529c52a652c052db5300530753245372,
    0x539353b253ddfa0e549c548a54a954ff55865759576557ac57c857c7fa0ffa10,
    0x589e58b2590b5953595b595d596359a459ba5b565bc0752f5bd85bec5c1e5ca6,
    0x5cba5cf55d275d53fa115d425d6d5db85db95dd05f215f345f675fb75fde605d,
    0x6085608a60de60d5612060f26111613761306198621362a663f56460649d64ce,
    0x654e66006615663b6609662e661e6624666566576659fa126673669966a066b2,
    0x66bf66fa670ef929676667bb685267c06801684468cffa136968fa14699869e2,
    0x6a306a6b6a466a736a7e6ae26ae46bd66c3f6c5c6c866c6f6cda6d046d876d6f,
    0x6d966dac6dcf6df86df26dfc6e396e5c6e276e3c6ebf6f886fb56ff570057007,
    0x7028708570ab710f7104715c71467147fa1571c171fe72b172be7324fa167377,
    0x73bd73c973d673e373d2740773f57426742a7429742e74627489749f7501756f,
    0x7682769c769e769b76a6fa17774652af7821784e7864787a7930fa18fa19fa1a,
    0x7994fa1b799b7ad17ae7fa1c7aeb7b9efa1d7d487d5c7db77da07dd67e527f47,
    0x7fa1fa1e83018362837f83c783f6844884b485538559856bfa1f85b0fa20fa21,
    0x880788f58a128a378a798aa78abe8adffa228af68b538b7f8cf08cf48d128d76,
    0xfa238ecffa24fa25906790defa269115912791da91d791de91ed91ee91e491e5,
    0x92069210920a923a9240923c924e925992519239926792a79277927892e792d7,
    0x92d992d0fa2792d592e092d39325932192fbfa28931e92ff931d930293709357,
    0x93a493c693de93f89431944594489592f9dcfa29969d96af9733973b9743974d,
    0x974f9751975598579865fa2afa2b9927fa2c999e9a4e9ad99adc9b759b729b8f,
    0x9bb19bbb9c009d709d6bfa2d9e199ed100000000217021712172217321742175,
    0x2176217721782179ffe2ffe4ff07ff0200000000000000000000000000000000,
    0,
    0,
    0,
    0,
    0,
    0,
    0,
    0,
    0,
    0,
    0,
    0,
    0,
    0,
    0,
    0,
    0,
    0,
    0,
    0,
    0,
    0,
    0,
    0,
    0,
    0,
    0,
    0,
    0,
    0,
    0,
    0,
    0,
    0,
    0,
    0,
    0,
    0,
    0,
    0,
    0,
    0,
    0,
    0,
    0,
    0,
    0,
    0,
    0,
    0,
    0,
    0,
    0,
    0,
    0,
    0,
    0,
    0,
    0,
    0,
    0,
    0,
    0,
    0,
    0,
    0,
    0,
    0,
    0,
    0,
    0,
    0,
    0,
    0,
    0,
    0,
    0,
    0,
    0,
    0,
    0,
    0,
    0,
    0,
    0,
    0,
    0,
    0,
    0,
    0,
    0,
    0,
    0,
    0,
    0,
    0,
    0,
    0,
    0,
    0,
    0,
    0,
    0,
    0,
    0,
    0,
    0,
    0,
    0,
    0,
    0,
    0,
    0,
    0,
    0,
    0,
    0,
    0,
    0,
    0,
    0,
    0,
    0,
    0,
    0,
    0,
    0,
    0,
    0x0000000000000000000000000000000000000000000000002170217121722173,
    0x2174217521762177217821792160216121622163216421652166216721682169,
    0xffe2ffe4ff07ff0232312116212122357e8a891c9348928884dc4fc970bb6631,
    0x68c892f966fb5f454e284ee14efc4f004f034f394f564f924f8a4f9a4f944fcd,
    0x504050224fff501e504650705042509450f450d8514a5164519d51be51ec5215,
    0x529c52a652c052db5300530753245372539353b253ddfa0e549c548a54a954ff,
    0x55865759576557ac57c857c7fa0ffa10589e58b2590b5953595b595d596359a4,
    0x59ba5b565bc0752f5bd85bec5c1e5ca65cba5cf55d275d53fa115d425d6d5db8,
    0x5db95dd05f215f345f675fb75fde605d6085608a60de60d5612060f261116137,
    0x61306198621362a663f56460649d64ce654e66006615663b6609662e661e6624,
    0x666566576659fa126673669966a066b266bf66fa670ef929676667bb685267c0,
    0x6801684468cffa136968fa14699869e26a306a6b6a466a736a7e6ae26ae46bd6,
    0x6c3f6c5c6c866c6f6cda6d046d876d6f6d966dac6dcf6df86df26dfc6e396e5c,
    0x6e276e3c6ebf6f886fb56ff5700570077028708570ab710f7104715c71467147,
    0xfa1571c171fe72b172be7324fa16737773bd73c973d673e373d2740773f57426,
    0x742a7429742e74627489749f7501756f7682769c769e769b76a6fa17774652af,
    0x7821784e7864787a7930fa18fa19fa1a7994fa1b799b7ad17ae7fa1c7aeb7b9e,
    0xfa1d7d487d5c7db77da07dd67e527f477fa1fa1e83018362837f83c783f68448,
    0x84b485538559856bfa1f85b0fa20fa21880788f58a128a378a798aa78abe8adf,
    0xfa228af68b538b7f8cf08cf48d128d76fa238ecffa24fa25906790defa269115,
    0x912791da91d791de91ed91ee91e491e592069210920a923a9240923c924e9259,
    0x92519239926792a79277927892e792d792d992d0fa2792d592e092d393259321,
    0x92fbfa28931e92ff931d93029370935793a493c693de93f89431944594489592,
    0xf9dcfa29969d96af9733973b9743974d974f9751975598579865fa2afa2b9927,
    0xfa2c999e9a4e9ad99adc9b759b729b8f9bb19bbb9c009d709d6bfa2d9e199ed1]

end ChunkTree.Text
