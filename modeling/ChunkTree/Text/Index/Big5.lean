import ChunkTree.Text.CodeIndex

/-!
# The Big5 index

Big5 with the Hong Kong supplementary character set, by pointer.  Sixteen characters a row, five
hexadecimal digits each.
-/

namespace ChunkTree.Text

set_option maxRecDepth 8000 in
def big5Index : CodeIndex where
  width := 20
  rows := #[
    0,
    0,
    0,
    0,
    0,
    0,
    0,
    0,
    0,
    0,
    0,
    0,
    0,
    0,
    0,
    0,
    0,
    0,
    0,
    0,
    0,
    0,
    0,
    0,
    0,
    0,
    0,
    0,
    0,
    0,
    0,
    0,
    0,
    0,
    0,
    0,
    0,
    0,
    0,
    0,
    0,
    0,
    0,
    0,
    0,
    0,
    0,
    0,
    0,
    0,
    0,
    0,
    0,
    0,
    0,
    0,
    0,
    0,
    0x0000000000000000000000000000000000000000000000000000000000000000000000043f004c32,
    0x04603045a6045782726704d77045b327cb104ce227cc503b95047360474404c4704c40242bf23617,
    0x2735226e8b270d204c572a3510474f045da04c8527c6c04d0704aa4046a126b230722525a5421a63,
    0x23e0623f610664d056fb0000007d950591d28bb903df40973427bef05bdb21d5e05aa40362529eb0,
    0x05ad105bb705cfc0676e0859329945074610749d0387521d532369e2602103eec258de03af507afc,
    0x09f97241612890d231ea20a8a2325e0430a0848409f960942f0493008613058960974a09218079d0,
    0x07a320666006a290889d0744c07bc50678207a2c0524f09046034e6073c425db9074c609fc7057b3,
    0x0492f0544c041312368e0581807a7227b6508b8f046ae26e880418125d9907bae224bc09fc8224c1,
    0x224c9224cc09fc908504235bb040b409fca044e12adff062c10706e09fcb00000000000000000000,
    0,
    0x0000000000000000000000000000000000000000000000000000000031c0031c1031c2031c3031c4,
    0x2010c031c5200d1200cd031c6031c7200cb21fe8031c8200ca031c9031ca031cb031cc2010e031cd,
    0x031ce00100000c1001cd000c000112000c90011a000c80014c000d3001d1000d20000001ebe00000,
    0x01ec0000ca00101000e1001ce000e00025100113000e90011b000e80012b000ed001d0000ec0014d,
    0x000f3001d2000f20016b000fa001d4000f9001d6001d8001da001dc000fc0000001ebf0000001ec1,
    0x000ea00261023da023db000000000000000000000000000000000000000000000000000000000000,
    0,
    0,
    0,
    0,
    0x00000000000000000000000000000000000000002a3a921145000000650a000000000004e3d06edd,
    0x09d4e091df0000000000277350649104f1a04f2804fa805156051740519c051e4052a1052a80533b,
    0x0534e053d1053d8056e2058f00590405907059320593405b6605b9e05b9f05c9a05e860603b06589,
    0x067fe068040686506d4e070bc0753507ea407eac07eba07ec707ecf07edf07f0607f370827a082cf,
    0x0836f089c608bbe08be208f6608f6708f6e0741107cfc07dcd0694607ac905227000000000000000,
    0x000000918c078b80915e080bc0000008d0b080f6209e700000000000809f09ec704ccd09dc909e0c,
    0x04c3e29df62700e09e0a2a133035c10000006e9a0823e07519000000491109a6c09a8f09f9907987,
    0x2846c21dca205d022ae604e2404e8104e8004e8704ebf04eeb04f370344c04fbd03e480500305088,
    0x0347d03493034a50518605905051db051fc0520504e89052790529005327035c7053a903551053b0,
    0x03553053c2054230356d035720368105493054a3054b4054b9054d0054ef05518055230552803598,
    0x0553f035a5035bf055d7035c527d84055250000020c4220d152512b0559022cc6039ec2034108e46,
    0x24db8294e504053280be0777a22c3803a34047d52815d269f224dea064dd20d7c20fb420cd5210f4,
    0x0648d08e7e20e9620c0b20f6422ca928256244d30000020d4629a4d280e9047f424ea722cc209ab2,
    0x03a67295f403fed03506252c7297d4278c822d4409d6e0981500000043d9260a5064b4054e322d4c,
    0x22bca21077039fb2106f266da26716279a0064ea2505220c4308e68221a128b4c20731000000480b,
    0x201a903ffa0587322d8d00000245c8204fc2609720f4c20d9605579040bb043ba0000004ab422a66,
    0x2109d081aa098f520d9c06379039fe2277508dc0056a10647c03e43000002a60120e0922acf22cc9,
    0x00000210c8239c20399203a062829b0357825e49220c70565220f3122cb229720034bc06c3d24e3b,
    0x00000000002757422e8b222082a65b28ccd20e7a20c342681c07f93210cf2280322939035fb251e3,
    0x20e8c20f8d20eaa03f9320f3020d472114f20e4c0000020eab20ba920d48210c02113d03ff922696,
    0x0643220fad233f42763922bce20d7e20d7f22c5122c5503a1820e98210c720f2e2a63226b5028cd2,
    0x28d9928cca095aa054cc082c4055b90000029ec309c2609ab62775e22dee071400816d080ec05c1c,
    0x2657208134037970535f280bd091b620efa20e0f20e7720efb035dd24deb0360920cd6056af227b5,
    0x210c920e1020e782107821148282072145520e7924e5022da405a542101d2101e210f5210f60579c,
    0x20e1127694282cd20fb520e7b2517e0370320fb621180252d82a2bd249da2183a241772827c05899,
    0x052680361a2573d07bb205b680480004b2c09f27049e709c1f09b8d25b742313d055fb035f205689,
    0x04e280590221bc12f878097512008604e5b04ebb0353e05c2305f5105fc4038fa0624c0653506b7a,
    0x06c3506c3a0706c0722b04e2c072ad248e907f520793b07cf907f532626a034c1000002634b08002,
    0x0808026612269510535d08864089c1278b208ba008d1d09485095780957f095e828e0f097e609875,
    0x098ce098de099632981009c7c09e1f09ec406b6f0f90704e37200870961d06237094a2000000503b,
    0x06dfe29c7309fa603dc90888f2414e0707705cf504b20251cd0355925d300612228a3208fa7091f6,
    0x0719106719073ba232812a10703c8b2198004b10078e407402051ae2870f0400906a632a2ba04223,
    0x0860f20a6f07a2a2994728aea097550704d053242207e093f4076d9289e309fa7077dd04ea304ff0,
    0x050bc04e2f04f1709fa80543407d8b05892058d021db605e9205e9905fc2227120658b233f906919,
    0x06a4323c6306cff0000007200245050738c03edb24a1305b15074b908b8325ca42569507a9307bec,
    0x07cc307e6c082f80859709fa90889009faa08eb909fab08fcf0855f099e00922109fac28db92143f,
    0x04071042a205a1a000000000000000098680676b042760573d00000085d62497b082bf2710d04c81,
    0x26d7405d7b26b1526fbe09fad09fae05b9609faf066e707e5b06e57079ca03d88044c32325622796,
    0x0439a045360000005cd523b1a08af905c7803d122355105d7809fb20715704558240ec21e2304c77,
    0x039780344a201a426c4108acc04fb420239059bf0816c09856298fa05f3b20b9f00000221c12896d,
    0x04102046bb2907903f0709fb32a1b5040f8037d6046f726c460417c286b2273ff0456d038d42549a,
    0x045610451b04d8904c7b04d76045ea03fc824b0f03661044de044bd041ed05d3e05d4805d5603dfc,
    0x0380f05da405db9038200383805e4205ebd05f2505f8303908039140393f0394d060d70613d05ce5,
    0x03989061b7061b9061cf039b80622c06290062e506318039f8056b103a03063e2063fb064070645a,
    0x03a4b064c005d150562109f9f03a970658603abd065ff0665303af20669203b220671603b42067a4,
    0x0680003b580684a0688403b7203b7103b7b06909069430725c069640699f0698503bbc069d603bdd,
    0x06a6506a7406a7106a8203bec06a9903bf206aab06ab506ad406af606b8106bc106bea06c7506caa,
    0x03ccb06d0206d0606d2606d8103cef06da406db106e1506e1806e2906e86289c006ebb06ee206eda,
    0x09f7f06ee806ee906f2406f3403d4623f4106f8106fbe03d6a03d75071b705c9903d8a0702c03d91,
    0x07050070540706f0707f0708920325043c1035f120ed823ed7057be26ed30713e257e00364e069a2,
    0x28be905b7407a49258e1294d907a6507a7d259ac07abb07ab007ac207ac3071d12648d041ca07ada,
    0x07add07aea041ef054b225c0107b0b07b5507b292530e25cfe07ba207b6f0839c25bb426c7f07bd0,
    0x0842107b9207bb825d2003dad25c650849207bfa07c0607c3525cc107c4407c832488207ca60667d,
    0x2457807cc907cc707ce607c7407cf307cf507cce07e670451d26e4407d5d26ed60748d07d8907dab,
    0x0713507db307dd2240572602907de403d1307df5217f907de52836d07e1d261212615a07e6e07e92,
    0x0432b0946c07e2707f4007f4107f4707936262d0099e107f972635107fa321661200680455c23766,
    0x045032833a07ffa2648908005080080801d080280802f2a08726cc30803b0803c080612271404989,
    0x2662623de3266e806725080a728a48081070811a058b0226f606c7f2649824fb8064e72148a08218,
    0x2185e06a5324a6524a950447a0822920b0d26a5223d7e04ff9214fd084e20836226b0a249a723530,
    0x2177323df8082aa0691b2f994041db0854b082d00831a20e16217b4036c12317d2355a0827b082e2,
    0x0831823e8b26da326b0526b97235ce03dbf0831d055ec083850450b26da5083ac083c1083d30347e,
    0x26ed406a570855a0349626e4222eef0845825be40847103dd3044e406aa70844a23cb507958084a8,
    0x26b9626e7726e43084de0840f08391044a008493084e425c910424025cc0045430853405af226e99,
    0x045270857304516067bf08616286252863b085c1270880860221582270cd2f9b20456a0862803648,
    0x218a2053f72739a0867e087712a0f8087ee22c27087b1087da0880f056610866c068560460f08845,
    0x08846275e023db9275e40885e0889c0465b088b4088b5063c1088c5077772770f089870898a089a6,
    0x089a9089a7089bc28a25089e72792427abd08a9c07793091fe08a9027a5907ae927b3a23f8f04713,
    0x27b380717c08b0c08b1f254302556508b3f08b4c08b4d08aa924a7a08b9008b9b08aaf216df04615,
    0x0884f08c9b27d5427d8f2f9d40372527d5308cd627d9827dbd08d1208d032191008cdb0705c08d11,
    0x24cc903ed008d7708da928002210142498a03b7c281bc2710c07ae708ead08eb608ec3092d408f19,
    0x08f2d283652841208fa5093032a29f20a5008fb30492a289de2853d23dbb05ef82326208ff92a014,
    0x286bc28501223250398026ed7090372853c27abe090612856c2860b090a828713090c4286e6090ae,
    0x090fd0916703af0091a9091c407cac2893321e890920e06c9f0924109262255b9092b928ac623c9b,
    0x28b0c255db20d310932c0936b28ae128beb0708f05ac328ae228ae5049650924428bec28c3928bff,
    0x093730945b08ebc09585095a609426095a006ff6042b92267a286d82127c23e2e049df06c1c0967b,
    0x096960416c096a326ed5061da096b6078f528ae0096bd053cc049a126cb82027426410290af290e5,
    0x24ad1219152330a09731086420973604a0f0453d0458524ae90707505b410971b0975c291d509757,
    0x05b4a291eb0975f09425050d0230b7230bc097890979f097b1097be097c0097d2097e02546c097ee,
    0x0741c29433097ff097f52941d2797a04ad109834098330984b0986603b0e2717503d51206302415c,
    0x25706098ca098b7098c8098c704aff26d27216d3055b0098e1098e6098ec093780993924a2904b72,
    0x2985729905099f509a0c09a3b09a1009a5825725036c4290b129bd509ae009ae229b0509af404c0e,
    0x09b1409b2d286000503409b34269a8038c32307d09b5009b4029d3e05a452186309b8e2424b09c02,
    0x09bff09c0c29e6809dd429fb72a1922a1ab2a0e12a1232a1df09d7e09d832a13409e0e0688809dc4,
    0x2215b2a1932a2202193b2a23309d392a0b92a2b409e9009e9509e9e09ea204d3409eaa09eaf24364,
    0x09ec103b60039e503d1d04f32037be28c2b09f0209f0804b960942426da209f1709f1609f390569f,
    0x0568a09f45099b82908b097f20847f09f6209f6907adc09f8e0721604bbe24975249bb07177249f8,
    0x2434824a510739e28bda218fa0799f2897e28e3609369093f328a44092ec09381093cb2896c244b9,
    0x0721703eeb0777207a43070d024473243f80717e217ef070a3218be2359903ec7218852542f217f8,
    0x03722216fb21839036e121774218d125f4b03723216c00575b24a25213fe212a8213c6214b608503,
    0x236a60850308455249942716523e312555c23efb27052044f4236ee2999d26f26067f90373303c15,
    0x03de70586c2192206810040572373f240e12408b2410f26c21054cb0569e266b10569220fdf20ba8,
    0x20e0d093c628b130939c04ef80512b038192443604ebc204652037f04f4b04f8a2565105a68201ab,
    0x203cb039992030a204140343504f29202c028eb32027508ada2020c04e98050cd0510d04fa204f03,
    0x24a0e23e8a04f420502e0506c0508104fcc04fe505058050fc051590515b0515d0515e06e7623595,
    0x23e3923ebf06d722188423e89051a8051c3205e0044dd204a3204922049108d7a28a9c2070e05259,
    0x052a420873052e10936e0467a0718c2438c20c20249ac210e4069d120e1d0747903ede0749907414,
    0x074560739804b8e24abc2408d053d0035840720f240c9055b420345054cd20bc60571d0925d096f4,
    0x09366057dd0578d0577f0363e058cb05a9928a46216fa2176f2171005a2c059b80928f05a7e05acf,
    0x05a1225946219f32186124295036f506d050744305a2125e8305a8128bd720413093e00748c21303,
    0x071050497209408289fb093bd037a005c1e05c9e05e5e05e48219962197c23aee05ecd05b4f21903,
    0x2190403701218a0036dd216fe036d30812a28a4721dba23472289a805f0c05f0e21927217ab05a6b,
    0x2173b05b4408614275fd088600607e228602262b05fdb03eb8225af225be2908826f73061c02003e,
    0x200462261b06199061980607522c9b22d07246d42914d064712466522b6a03a2922b2223450298ea,
    0x22e78063372a45b064b606331063d1249e322d67062a422ca10643b0656b0697203bf42308e232ad,
    0x24989232ab0550d232e0218d92943f066ce23289231b303ae0041902558428b222558f216fc2555b,
    0x25425078ee231032182a23234034642320f23182242c90668e26d240666b04b93066302787021deb,
    0x06663232d2232e10661e25872038d12383a237bc03b99237a2233fe074d003b960678f2462a068b6,
    0x0681e03bc406abe03863237d52448706a3306a5206ac906b0521912065110689806a4c03bd706a7a,
    0x06b5723fc023c9a093a0092f228bea28acb092892801e289dc0946706da506f0b249ec06d6723f7f,
    0x03d8f06e042403c05a3d06e0a0584706d24078420713b2431a24276070f10725007287072942478f,
    0x247250517924aa4205eb0747a23ef82365f24a4a2491725fe103f0603eb124adf28c2323f35060a7,
    0x03ef3074cc0743c09387074370449f26dea045510758303f6324cd924d0603f5807555076732a5c6,
    0x03b190746828acc249ab2498e03afb03dcd24a4e03eff249c5248f3091fa057320934228ae321864,
    0x050df25221251e707778232320770e0770f0777b246972378103a5e248f0074380749b03ebf24aba,
    0x24ac7040c824a96261ae09307255810781e0788d07888078d2073d00795927741256e30410e0799b,
    0x08496079a506a2d23efa07a3a079f40416e216e60413209235079f120d4c2498c2029923dba2176e,
    0x035970556b03570036aa201d420c0d07ae205a59226f525aaf25a9c05a0d2025b078f005a2a25bc6,
    0x07afe041f907c5d07c6d0421125bb325ebc25ea607ccd249f9217b007c8e07c7c07cae06ab207ddc,
    0x07e0707dd307f4e262612615c27b4807d9725e820426a26b7520916067d62004e235cf057c426412,
    0x263f82496207fdd07b272082c25ae925d4307b0c25e0e099e60864509a6306a1c2343f039e2249f7,
    0x265ad09a1f265a0084802712726cd1044ea0813704402080c60810908142267b4098c326a4208262,
    0x0826526a510845326da7086102721b05a860417f2184005b2b218a105ae4218d8086a02f9bc23d8f,
    0x0882d2742205a020886e04f4508887088bf088e6089650894d2568308954277852778428bf528bd9,
    0x28b9c289f903ead084a3046f5046cf037f208a3d08a1c2944805f4d0922b24284065d407129070c4,
    0x2184509d6d08c9f08ce927ddc0599a077c3059f00436e036d408e2a08ea724c0908f3008f4a042f4,
    0x06c5806fbb223210489b06f7906e8b217da09be9036b52492f090bb090970557104906091bb09404,
    0x28a4b0406228afc0942728c1d28c3b084e508a2b09599095a7095970959628d340744503ec2248ff,
    0x24a42243ea03ee7232250968f28ee728e6628e6503ecc249ed24a7823fee074120746b03efc09741,
    0x290b00684704a1d29093257df0975d093682898928c2628b2f263be092ba05b1108b690493c073f9,
    0x2421b0979b097710993820f2605dc128bc524ab20981f294da092f6295d7091e5044c028b5024a67,
    0x28b64098dc28a4503f000922a04925084140993b0994d27b0603dfd0999b04b6f099aa09a5c28b65,
    0x258c806a8f09a2105afe09a2f298f104b9029948099bc04bbd04b970937d058722130205822249b8,
    0x214e8078442271f23db8068c503d7d094580392706150227812296b0610709c4f09c5309c7b09c35,
    0x09c1009b7f09bcf29e2d09b9f2a1f52a0fe09d2104cae2410409e1804cb009d0c2a1b42a0ed2a0f3,
    0x2992f09da5084bd26e1226fdf26b82085fc0453326da426e8426df008420085ee26e00237d726064,
    0x079e22359c236400492d249de03d62093db092be09348202bf078b9092770944d04fe40344009064,
    0x2555d0783d07854078b60784b21757231c9249410369a04f7206fda06fd90701e0701e05414241b5,
    0x057bb058f30578a09d16057d707134034af241ac071eb26c4024f9705b28217b528a490610c05ace,
    0x05a0b042bc244880372c04b7b289fc093bb093b8218d620f1d0847226cc021413242fa22c26243c1,
    0x0599423db72674107da82615b260a4249b92498b289fa092e5073e203ee9074b428b632189f03ee1,
    0x24ab306ad8073f3073fb03ed624a3e24a94217d924a66203a721424249e50744824916070a524976,
    0x09284073e60935f204fe0933128ace28a160938628be7255d50493528a820716b2494320cff056a4,
    0x2061a20beb20cb805502079c4217fa07dfe216c224a50218520452e094010370a28ac0249ad059b0,
    0x218bf218832748405aa1036e223d5b036b00925f05a7928a81218620937403ccd20ab404a960398a,
    0x050f403d6903d4c2139c07175042fb2821806e0f290e4044eb06d5727e4f0706706caf03cd623fed,
    0x23e2d06e0206f0c03d6f203f507551036bc034c80468003eda04871059c40926e0493e08f4128c1c,
    0x26bc005812057c8036d621452070fe2436224a7122fe3212b0223bd068b90696721398234e527bf4,
    0x236df28a83237d6233fa24c9f06a1a236ad26cb70843e044df044ce26d2626d5126c8226fde06f17,
    0x271090833d2173a083ed26c8027053217db0598905a82217b305a6105a7121905241fc0372d059ef,
    0x2173c036c70718e093900669a242a505a6e05a2b2429306a2b23ef9277362445b242ca0711d24259,
    0x289e104fb026d2805cc2244ce27e4d243bd06a0c2425621304070a607133243e903da506cdf2f825,
    0x24a4f07e65059eb05d2f03df305f5c24a5d217df07da4084260548523afa23300202140577e208d5,
    0x2061903fe521f9e2a2b6070032915b05d700738f07cd328a592942004fc807fe7072cd0731027af4,
    0x0733807339256f6073410734803ea927b180906c071f5248f2073e1081f603eca0770c03ed106ca2,
    0x056fd074190741e0741f03ee203ef003ef403efa074d303f0e03f53075420756d075720758d03f7c,
    0x075c8075dc03fc00764d03fd70767403fdc0767a24f5c071880562308980058690401d0774304039,
    0x0676104045035db077980406a0406f05c5e077be077cb058f207818070b90781c040a80783907847,
    0x078510786608448255350793306803079320410304109079910799908fbb07a0608fbc0416707a91,
    0x041b207abc08279041c407acf07adb041cf04e2107b6207b6c07b7b07c1207c1b042600427a07c7b,
    0x07c9c0428c07cb80429407ced08f93070c020ccf07dcf07dd407dd007dfd07fae07fb40729f04397,
    0x080200802507b390802e080310805403dcc057b4070a0080b7080e9043ed0810c0732a0810e08112,
    0x07560081140440103b3908156081590815a044130583a0817c0818404425081930442d081a5057ef,
    0x081c1081e4082540448f082a608276082ca082d8082ff044b008357096690698a08405070f508464,
    0x060e30848804504084be084e1084f80851008538085520453b0856f08570085e0045770867208692,
    0x086b2086ef096450878b0460604617088ae088ff0892408947089912796708a2908a3808a9408ab4,
    0x08c5108cd408cf208d1c047980585f08dc3047ed04eee08e3a055d80575408e71055f508eb004837,
    0x08ece08ee208ee408eed08ef208fb708fc108fca08fcc09033099c4048ad098e0092130491e09228,
    0x092580926b092b1092ae092bf092e3092eb092f3092f4092fd0934309384093ad049450495109ebf,
    0x09417053010941d0942d0943e0496a09454094790952d095a2049a7095f409633049e5067a004a24,
    0x0974004a35097b2097c20565404ae4060e8098b904b19098f1058440990e09919051b40991c09937,
    0x099420995d0996204b70099c504b9d09a3c09b0f07a8309b6909b8109bdd09bf109bf404c6d09c20,
    0x0376f21bc209d4909c3a09efe0565009d9309dbd09dc009dfc094f608fb609e7b09eac09eb109ebd,
    0x09ec6094dc09ee209ef109ef807ac809f4420094202b7203a00691a094c3059ac204d705840094c1,
    0x037b9205d52061520676216ba057570717320ac220acd20bbf0546a2f83b20bcb0549e20bfb20c3b,
    0x20c5320c6520c7c060e720c8d0567a20cb520cdd20ced20d6f20db220dc80695509c2f087a520e04,
    0x20e0e20ed720f9020f2d20e7305c2020fbc05e0b2105c2104f210760671e2107b210882109603647,
    0x210bf210d32112f2113b05364084ad212e3213752133608b812157721619217c3217c704e78070bb,
    0x2182d2196a21a2d21a4521c2a21c7021cac21ec8062c321ed521f15071980685522045069e9036c8,
    0x2227c223d7223fa2272a228712294f082fd229672299322ad5089a522ae808fa022b0e097b822b3f,
    0x0984709abd22c4c0000022c8822cb725be822d0822d1222db722d9522e4222f7422fcc2303323066,
    0x2331f233de05fb106648066bf27a7923567235f307201249ba077d72361a2371607e8720346058b5,
    0x0670e0691823aa72765725fe223e1123eb9275fe2209a048d004ab82411928a9a242ee2430d2403b,
    0x243342439624a45205ca051d2206110599f21ea803bbe23cff24404244d605788246740399b2472f,
    0x285e8299c903762221c308b5e28b4e099d624812248fb24a150720924ac020c780596524ea524f86,
    0x2077908eda2502c0528f0573f07171252992541923f4a24aa7055bc254462546e26b52091d403473,
    0x2553f276322555e047182556225566257c72493f2585d05066034fb233cc060de259030477c28948,
    0x25aae25b8925c0621d90057a10715106fb62610227c1209056261b224f9a08b62264022644a05d5b,
    0x26bf708f36264842191c08aea249f62648823fef2651204bc0265bf266b52271b09465257e106195,
    0x05a272f8cd04fbb056b924521266fc04e6a249340965606d8f26cbd0361808977267992686e26411,
    0x2685e071df268c707b42290c020a1126926091042693907a4509df0269fa09a2626a2d0365f26469,
    0x200210798326a3426b5b05d2c23519083cf26b9d046d026ca40753b0886526dae058b60371c2258d,
    0x2704b271cd03c542728027285092812217a2728b09330272e6249d006c390949f2745020ef808827,
    0x088f52292628473217b106eb824a2a21820039a4036b905c10079e30453f066b629cad298a408943,
    0x277cc27858056d6040df2160a039a12372f280e8213c5071ad08366279dd291a805a6704cb7270af,
    0x289ab279fd27a0a27b0b27d662417a07b430797e2800906fb52a2df06a0328318053a226e07093bf,
    0x068360975d2816f28023269b5213ed2322f2804805d8528c302808305715098232894905dab24988,
    0x065be069d5053d224aa523f8103c110673628090280f42812e21fa12814f28189281af2821a28306,
    0x2832f2838a035ca28468286aa048fa063e6289560780809255289b8043f2289e7043df289e828b46,
    0x28bd4059f828c0908f0b28fc5290ec07b51291102913c03df72915e24aca08fd00728f0568b294e7,
    0x295e9295b0295b829732298d1299492996a299c329a2829b0e29d5a29d9b07e9f29ef829f2304ca4,
    0x095472a293071a22a2ff04d91090122a5cb04d9c20c9c08fbe055c108fba224b008fb924a9304509,
    0x07e7f06f5606ab104eea034e428b2c2789d0373a08e80217f52802428b6c28b9927a3e266af03deb,
    0x2765523cb7256352595604e9a25e8126258056bf20e6d08e0e05b6d23e8824c9e063de062d0217f6,
    0x2187b065300562d25c4a0541a2531103dc629d9804c7d056220561e07f4925ed80597523d4008770,
    0x04e1c20fea20d49236ba0811709d5e08d180763b09c450764e077b9093450543208148082f705625,
    0x0813208418080bd055ea07962056430541620e9d035ce05605055f1066f1282e20362d07534055f0,
    0x055ba054970557220c4120c9605ed02514820e7622c6220ea209eab07d5a055de210750629d0976d,
    0x0549408ccd071f609176063fc063b9063fe0556922b4309c7222eb30519a034df20da7051a70544d,
    0x0551e055130766608e2d2688a075b1080b60880408786088c7081b60841c210c1044ec0730424706,
    0x05b900830b268930567b226f427d2f241a327d7326ed0272b609170211d90920823cfc2a6a920eac,
    0x20ef90726621ca20474e24fc227ff920feb040fa09c5d0651f22da0048f3247e029d7c20fec20e0a,
    0x06062275a320fed000002604821187071a307e8e09d5004e1a04e040357705b0d06cb205367036ac,
    0x039dc0537d036a5246180589a24b6e0822d0544b057aa25a95209790000003a52224650737429eac,
    0x04d0909bed23cfe29f3004c5b24fa92959e29fde0845c23db6272b2267b3237200632e07d2523ef7,
    0x23e2c03a2a09008052cc03e740367a045e92048e0764005af020eb60787a27f2e058a7040bf0567c,
    0x09b8b05d74076542a43409e8504ce1075f9037fb06119230da243f2000000565d212a9057a724963,
    0x29e0605234270ae035ad06c4a09d7c07c5609b39057de2176c05c53064d3294d02633527164086ad,
    0x20d2826d2224ae220d7100000051fe21f0f05d8e0970321dd109e810904c07b1f09b0205cd107ba3,
    0x062680633509aff07bcf09b2a07c7e09b2e07c4207c8609c1507bfc09b0909f1709c1b2493e09f5a,
    0x0557305bc304ffd09e9804ff20526003e06052d10576705056059b705e12097c809dab08f5c05469,
    0x097b409940097ba0532c061300692c053da09c0a09d0204c3b0964106980050a6075462176d099da,
    0x052730000009159096810915c000000915128e970637f26d2306aca056110918e0757a06285203fc,
    0x0734f07c7025c2123cfd0000024919076d609b9d04e2a20cd4083be088420000005c4a069c0050ed,
    0x0577a0521f05df504ece06c31201f204f390549c054da0529a08d82035fe05f0c035f30000006b52,
    0x0917c09fa509b970982e098b409aba09ea809e840717a07b140000006bfa0881807f780000005620,
    0x2a64a08e7709f530000008dd408e4f09e1c08e01062822837d08e2808e7507ad324a7707a3e078d8,
    0x06cea08a670760728a5a09f2606cce087d6075c32a2b2078532f84008d0c072e20737108b2d07302,
    0x074f108ceb24abb0862f05fba088a0044b7000002183b26e050000008a7e2251b00000060fd07667,
    0x09ad709d440936e09b8f087f5000000880f08cf70732c0972109bb0035d6072b204c0707c510994a,
    0x261590615904c0409e960617d000000575f0616f062a606239062ce03a5c061e2053aa233f506364,
    0x06802035d205d5728bc208fda28e3900000050d921d4607906053320963820f3b0406500000077fe,
    0x0000007cc225f1a07cda07a2d080660806307d4d07505074f2089940821a0670c08062274860805b,
    0x074f0081030772408989267cc0755326ed1087a9087ce081c80878c08a4908cad08b430772b074f8,
    0x084da03635069b208da600000089a90746806db9087c124011074e703ddb07176060a40619c03cd1,
    0x07162060770000007f7128b2d07250060e904b7e0522003c1823cc725ed7276562553121944212fe,
    0x2990326ddc270ad05cc1261ad28a0f23677200ee2684624f0e0456205b1f2634c09f5009ea62626b,
    0x030000ff0c03001030020ff0e020270ff1b0ff1a0ff1f0ff010fe3002026020250fe500fe510fe52,
    0x000b70fe540fe550fe560fe570ff5c020130fe31020140fe33025740fe340fe4f0ff080ff090fe35,
    0x0fe360ff5b0ff5d0fe370fe3803014030150fe390fe3a03010030110fe3b0fe3c0300a0300b0fe3d,
    0x0fe3e03008030090fe3f0fe400300c0300d0fe410fe420300e0300f0fe430fe440fe590fe5a0fe5b,
    0x0fe5c0fe5d0fe5e02018020190201c0201d0301d0301e02035020320ff030ff060ff0a0203b000a7,
    0x03003025cb025cf025b3025b2025ce0260602605025c7025c6025a1025a0025bd025bc032a302105,
    0x000af0ffe30ff3f002cd0fe490fe4a0fe4d0fe4e0fe4b0fe4c0fe5f0fe600fe610ff0b0ff0d000d7,
    0x000f7000b10221a0ff1c0ff1e0ff1d0226602267022600221e02252022610fe620fe630fe640fe65,
    0x0fe660ff5e022290222a022a5022200221f022bf033d2033d10222b0222e02235022340264002642,
    0x0229502299021910219302190021920219602197021990219802225022230ff0f0ff3c022150fe68,
    0x0ff040ffe5030120ffe00ffe10ff050ff2002103021090fe690fe6a0fe6b033d50339c0339d0339e,
    0x033ce033a10338e0338f033c4000b0051590515b0515e0515d0516105163055e7074e907cce02581,
    0x025820258302584025850258602587025880258f0258e0258d0258c0258b0258a025890253c02534,
    0x0252c025240251c025940250002502025950250c0251002514025180256d0256e025700256f02550,
    0x0255e0256a02561025e2025e3025e5025e40257102572025730ff100ff110ff120ff130ff140ff15,
    0x0ff160ff170ff180ff19021600216102162021630216402165021660216702168021690302103022,
    0x030230302403025030260302703028030290534105344053450ff210ff220ff230ff240ff250ff26,
    0x0ff270ff280ff290ff2a0ff2b0ff2c0ff2d0ff2e0ff2f0ff300ff310ff320ff330ff340ff350ff36,
    0x0ff370ff380ff390ff3a0ff410ff420ff430ff440ff450ff460ff470ff480ff490ff4a0ff4b0ff4c,
    0x0ff4d0ff4e0ff4f0ff500ff510ff520ff530ff540ff550ff560ff570ff580ff590ff5a0039100392,
    0x003930039400395003960039700398003990039a0039b0039c0039d0039e0039f003a0003a1003a3,
    0x003a4003a5003a6003a7003a8003a9003b1003b2003b3003b4003b5003b6003b7003b8003b9003ba,
    0x003bb003bc003bd003be003bf003c0003c1003c3003c4003c5003c6003c7003c8003c90310503106,
    0x0310703108031090310a0310b0310c0310d0310e0310f03110031110311203113031140311503116,
    0x0311703118031190311a0311b0311c0311d0311e0311f03120031210312203123031240312503126,
    0x031270312803129002d9002c9002ca002c7002cb0240002401024020240302404024050240602407,
    0x02408024090240a0240b0240c0240d0240e0240f0241002411024120241302414024150241602417,
    0x02418024190241a0241b0241c0241d0241e0241f02421020ac000000000000000000000000000000,
    0,
    0x0000000000000000000000000000000000004e0004e5904e0104e0304e4304e5d04e8604e8c04eba,
    0x0513f051650516b051e005200052010529b05315053410535c053c804e0904e0b04e0804e0a04e2b,
    0x04e38051e104e4504e4804e5f04e5e04e8e04ea10514005203052fa05343053c9053e30571f058eb,
    0x05915059270597305b5005b5105b5305bf805c0f05c2205c3805c7105ddd05de505df105df205df3,
    0x05dfe05e7205efe05f0b05f130624d04e1104e1004e0d04e2d04e3004e3904e4b05c3904e8804e91,
    0x04e9504e9204e9404ea204ec104ec004ec304ec604ec704ecd04eca04ecb04ec4051430514105167,
    0x0516d0516e0516c05197051f6052060520705208052fb052fe052ff0531605339053480534705345,
    0x0535e05384053cb053ca053cd058ec059290592b0592a0592d05b5405c1105c2405c3a05c6f05df4,
    0x05e7b05eff05f1405f1505fc306208062360624b0624e0652f0658706597065a4065b9065e5066f0,
    0x067080672806b2006b6206b7906bcb06bd406bdb06c0f06c340706b0722a072360723b0724707259,
    0x0725b072ac0738b04e1904e1604e1504e1404e1804e3b04e4d04e4f04e4e04ee504ed804ed404ed5,
    0x04ed604ed704ee304ee404ed904ede0514505144051890518a051ac051f9051fa051f80520a052a0,
    0x0529f0530505306053170531d04edf0534a0534905361053600536f0536e053bb053ef053e4053f3,
    0x053ec053ee053e9053e8053fc053f8053f5053eb053e6053ea053f2053f1053f0053e5053ed053fb,
    0x056db056da059160592e05931059740597605b5505b8305c3c05de805de705de605e0205e0305e73,
    0x05e7c05f0105f1805f1705fc50620a06253062540625206251065a5065e60672e0672c0672a0672b,
    0x0672d06b6306bcd06c1106c1006c3806c4106c4006c3e072af0738407389074dc074e6075180751f,
    0x0752807529075300753107532075330758b0767d076ae076bf076ee077db077e2077f30793a079be,
    0x07a7407acb04e1e04e1f04e5204e5304e6904e9904ea404ea604ea504eff04f0904f1904f0a04f15,
    0x04f0d04f1004f1104f0f04ef204ef604efb04ef004ef304efd04f0104f0b05149051470514605148,
    0x05168051710518d051b00521705211052120520e05216052a3053080532105320053700537105409,
    0x0540f0540c0540a05410054010540b05404054110540d05408054030540e0540605412056e0056de,
    0x056dd0573305730057280572d0572c0572f05729059190591a05937059380598405978059830597d,
    0x05979059820598105b5705b5805b8705b8805b8505b8905bfa05c1605c7905dde05e0605e7605e74,
    0x05f0f05f1b05fd905fd60620e0620c0620d06210062630625b0625806536065e9065e8065ec065ed,
    0x066f2066f3067090673d06734067310673506b2106b6406b7b06c1606c5d06c5706c5906c5f06c60,
    0x06c5006c5506c6106c5b06c4d06c4e070700725f0725d0767e07af907c7307cf807f3607f8a07fbd,
    0x08001080030800c08012080330807f080890808b0808c081e3081ea081f3081fc0820c0821b0821f,
    0x0826e082720827e0866b088400884c088630897f0962104e3204ea804f4d04f4f04f4704f5704f5e,
    0x04f3404f5b04f5504f3004f5004f5104f3d04f3a04f3804f4304f5404f3c04f4604f6304f5c04f60,
    0x04f2f04f4e04f3604f5904f5d04f4804f5a0514c0514b0514d05175051b6051b7052250522405229,
    0x0522a05228052ab052a9052aa052ac0532305373053750541d0542d0541e0543e054260544e05427,
    0x05446054430543305448054420541b054290544a054390543b054380542e0543505436054200543c,
    0x05440054310542b0541f0542c056ea056f0056e4056eb0574a05751057400574d057470574e0573e,
    0x057500574f0573b058ef0593e0599d05992059a80599e059a305999059960598d059a4059930598a,
    0x059a505b5d05b5c05b5a05b5b05b8c05b8b05b8f05c2c05c4005c4105c3f05c3e05c9005c9105c94,
    0x05c8c05deb05e0c05e8f05e8705e8a05ef705f0405f1f05f6405f6205f7705f7905fd805fcc05fd7,
    0x05fcd05ff105feb05ff805fea06212062110628406297062960628006276062890626d0628a0627c,
    0x0627e0627906273062920626f062980626e06295062930629106286065390653b06538065f1066f4,
    0x0675f0674e0674f06750067510675c067560675e067490674606760067530675706b6506bcf06c42,
    0x06c5e06c9906c8106c8806c8906c8506c9b06c6a06c7a06c9006c7006c8c06c6806c9606c9206c7d,
    0x06c8306c7206c7e06c7406c8606c7606c8d06c9406c9806c82070760707c0707d070780726207261,
    0x07260072c4072c2073960752c0752b075370753807682076ef077e3079c1079c0079bf07a7607cfb,
    0x07f5508096080930809d080980809b0809a080b20826f082920828b0828d0898b089d208a0008c37,
    0x08c4608c5508c9d08d6408d7008db308eab08eca08f9b08fb008fc208fc608fc508fc405de109091,
    0x090a2090aa090a6090a309149091c6091cc096320962e096310962a0962c04e2604e5604e7304e8b,
    0x04e9b04e9e04eab04eac04f6f04f9d04f8d04f7304f7f04f6c04f9b04f8b04f8604f8304f7004f75,
    0x04f8804f6904f7b04f9604f7e04f8f04f9104f7a05154051520515505169051770517605178051bd,
    0x051fd0523b05238052370523a052300522e0523605241052be052bb0535205354053530535105366,
    0x053770537805379053d6053d4053d70547305475054960547805495054800547b054770548405492,
    0x054860547c0549005471054760548c0549a05462054680548b0547d0548e056fa05783057770576a,
    0x057690576105766057640577c0591c0594905947059480594405954059be059bb059d4059b9059ae,
    0x059d1059c6059d0059cd059cb059d3059ca059af059b3059d2059c505b5f05b6405b6305b9705b9a,
    0x05b9805b9c05b9905b9b05c1a05c4805c4505c4605cb705ca105cb805ca905cab05cb105cb305e18,
    0x05e1a05e1605e1505e1b05e1105e7805e9a05e9705e9c05e9505e9605ef605f2605f2705f2905f80,
    0x05f8105f7f05f7c05fdd05fe005ffd05ff505fff0600f060140602f06035060160602a0601506021,
    0x06027060290602b0601b06216062150623f0623e062400627f062c9062cc062c4062bf062c2062b9,
    0x062d2062db062ab062d3062d4062cb062c8062a8062bd062bc062d0062d9062c7062cd062b5062da,
    0x062b1062d8062d6062d7062c6062ac062ce0653e065a7065bc065fa06614066130660c0660606602,
    0x0660e066000660f066150660a066070670d0670b0676d0678b06795067710679c067730677706787,
    0x0679d067970676f067700677f067890677e06790067750679a067930677c0676a0677206b2306b66,
    0x06b6706b7f06c1306c1b06ce306ce806cf306cb106ccc06ce506cb306cbd06cbe06cbc06ce206cab,
    0x06cd506cd306cb806cc406cb906cc106cae06cd706cc506cf106cbf06cbb06ce106cdb06cca06cac,
    0x06cef06cdc06cd606ce0070950708e070920708a070990722c0722d07238072480726707269072c0,
    0x072ce072d9072d7072d0073a9073a80739f073ab073a50753d0759d075990759a07684076c2076f2,
    0x076f4077e5077fd0793e0794007941079c9079c807a7a07a7907afa07cfe07f5407f8c07f8b08005,
    0x080ba080a5080a2080b1080a1080ab080a9080b4080aa080af081e5081fe0820d082b30829d08299,
    0x082ad082bd0829f082b9082b1082ac082a5082af082b8082a3082b0082be082b70864e086710521d,
    0x0886808ecb08fce08fd408fd1090b5090b8090b1090b6091c7091d109577095800961c096400963f,
    0x0963b0964409642096b9096e8097520975e04e9f04ead04eae04fe104fb504faf04fbf04fe004fd1,
    0x04fcf04fdd04fc304fb604fd804fdf04fca04fd704fae04fd004fc404fc204fda04fce04fde04fb7,
    0x051570519205191051a00524e052430524a0524d0524c0524b05247052c7052c9052c3052c10530d,
    0x053570537b0539a053db054ac054c0054a8054ce054c9054b8054a6054b3054c7054c2054bd054aa,
    0x054c1054c4054c8054af054ab054b1054bb054a9054a7054bf056ff057820578b057a0057a3057a2,
    0x057ce057ae0579305955059510594f0594e05950059dc059d8059ff059e3059e805a03059e5059ea,
    0x059da059e605a01059fb05b6905ba305ba605ba405ba205ba505c0105c4e05c4f05c4d05c4b05cd9,
    0x05cd205df705e1d05e2505e1f05e7d05ea005ea605efa05f0805f2d05f6505f8805f8505f8a05f8b,
    0x05f8705f8c05f89060120601d06020060250600e060280604d06070060680606206046060430606c,
    0x0606b0606a0606406241062dc0631606309062fc062ed06301062ee062fd06307062f1062f7062ef,
    0x062ec062fe062f406311063020653f06545065ab065bd065e2066250662d06620066270662f0661f,
    0x066280663106624066f7067ff067d3067f1067d4067d0067ec067b6067af067f5067e9067ef067c4,
    0x067d1067b4067da067e5067b8067cf067de067f3067b0067d9067e2067dd067d206b6a06b8306b86,
    0x06bb506bd206bd706c1f06cc906d0b06d3206d2a06d4106d2506d0c06d3106d1e06d1706d3b06d3d,
    0x06d3e06d3606d1b06cf506d3906d2706d3806d2906d2e06d3506d0e06d2b070ab070ba070b3070ac,
    0x070af070ad070b8070ae070a407230072720726f07274072e9072e0072e1073b7073ca073bb073b2,
    0x073cd073c0073b30751a0752d0754f0754c0754e0754b075ab075a4075a5075a2075a30767807686,
    0x0768707688076c8076c6076c3076c507701076f9076f8077090770b076fe076fc07707077dc07802,
    0x078140780c0780d07946079490794807947079b9079ba079d1079d2079cb07a7f07a8107aff07afd,
    0x07c7d07d0207d0507d0007d0907d0707d0407d0607f3807f8e07fbf08004080100800d0801108036,
    0x080d6080e5080da080c3080c4080cc080e1080db080ce080de080e4080dd081f408222082e708303,
    0x08305082e3082db082e608304082e50830208309082d2082d7082f108301082dc082d4082d1082de,
    0x082d3082df082ef0830608650086790867b0867a0884d0886b08981089d408a0808a0208a0308c9e,
    0x08ca008d7408d7308db408ecd08ecc08ff008fe608fe208fea08fe508fed08feb08fe408fe8090ca,
    0x090ce090c1090c30914b0914a091cd09582096500964b0964c0964d0976209769097cb097ed097f3,
    0x09801098a8098db098df099960999904e5804eb30500c0500d0502304fef050260502504ff805029,
    0x05016050060503c0501f0501a050120501104ffa05000050140502804ff1050210500b0501905018,
    0x04ff304fee0502d0502a04ffe0502b050090517c051a4051a5051a2051cd051cc051c6051cb05256,
    0x0525c052540525b0525d0532a0537f0539f0539d053df054e8055100550105537054fc054e5054f2,
    0x05506054fa05514054e9054ed054e105509054ee054ea054e60552705507054fd0550f0570305704,
    0x057c2057d4057cb057c3058090590f05957059580595a05a1105a1805a1c05a1f05a1b05a13059ec,
    0x05a2005a2305a2905a2505a0c05a0905b6b05c5805bb005bb305bb605bb405bae05bb505bb905bb8,
    0x05c0405c5105c5505c5005ced05cfd05cfb05cea05ce805cf005cf605d0105cf405dee05e2d05e2b,
    0x05eab05ead05ea705f3105f9205f9105f9006059060630606506050060550606d060690606f06084,
    0x0609f0609a0608d060940608c060850609606247062f306308062ff0634e0633e0632f0635506342,
    0x063460634f063490633a063500633d0632a0632b063280634d0634c065480654906599065c1065c5,
    0x06642066490664f06643066520664c0664506641066f806714067150671706821068380684806846,
    0x0685306839068420685406829068b3068170684c068510683d067f406850068400683c068430682a,
    0x0684506813068180684106b8a06b8906bb706c2306c2706c2806c2606c2406cf006d6a06d9506d88,
    0x06d8706d6606d7806d7706d5906d9306d6c06d8906d6e06d5a06d7406d6906d8c06d8a06d7906d85,
    0x06d6506d94070ca070d8070e4070d9070c8070cf0723907279072fc072f9072fd072f8072f707386,
    0x073ed07409073ee073e0073ea073de075540755d0755c0755a07559075be075c5075c7075b2075b3,
    0x075bd075bc075b9075c2075b80768b076b0076ca076cd076ce077290771f0772007728077e907830,
    0x07827078380781d0783407837078250782d078200781f078320795507950079600795f079560795e,
    0x0795d079570795a079e4079e3079e7079df079e6079e9079d807a8407a8807ad907b0607b1107c89,
    0x07d2107d1707d0b07d0a07d2007d2207d1407d1007d1507d1a07d1c07d0d07d1907d1b07f3a07f5f,
    0x07f9407fc507fc108006080180801508019080170803d0803f080f108102080f008105080ed080f4,
    0x08106080f8080f308108080fd0810a080fc080ef081ed081ec08200082100822a0822b082280822c,
    0x082bb0832b08352083540834a08338083500834908335083340834f0833208339083360831708340,
    0x083310832808343086540868a086aa08693086a4086a90868c086a30869c08870088770888108882,
    0x0887d0887908a1808a1008a0e08a0c08a1508a0a08a1708a1308a1608a0f08a1108c4808c7a08c79,
    0x08ca108ca208d7708eac08ed208ed408ecf08fb1090010900608ff70900008ffa08ff40900308ffd,
    0x0900508ff809095090e1090dd090e2091520914d0914c091d8091dd091d7091dc091d90958309662,
    0x09663096610965b0965d09664096580965e096bb098e2099ac09aa809ad809b2509b3209b3c04e7e,
    0x0507a0507d0505c05047050430504c0505a0504905065050760504e050550507505074050770504f,
    0x0500f0506f0506d0515c05195051f00526a0526f052d2052d9052d8052d5053100530f053190533f,
    0x053400533e053c3066fc055460556a05566055440555e05561055430554a05531055560554f05555,
    0x0552f05564055380552e0555c0552c05563055330554105557057080570b05709057df058050580a,
    0x05806057e0057e4057fa0580205835057f7057f9059200596205a3605a4105a4905a6605a6a05a40,
    0x05a3c05a6205a5a05a4605a4a05b7005bc705bc505bc405bc205bbf05bc605c0905c0805c0705c60,
    0x05c5c05c5d05d0705d0605d0e05d1b05d1605d2205d1105d2905d1405d1905d2405d2705d1705de2,
    0x05e3805e3605e3305e3705eb705eb805eb605eb505ebe05f3505f3705f5705f6c05f6905f6b05f97,
    0x05f9905f9e05f9805fa105fa005f9c0607f060a306089060a0060a8060cb060b4060e6060bd060c5,
    0x060bb060b5060dc060bc060d8060d5060c6060df060b8060da060c70621a0621b06248063a0063a7,
    0x0637206396063a2063a5063770636706398063aa06371063a906389063830639b0636b063a806384,
    0x0638806399063a1063ac063920638f063800637b06369063680637a0655d06556065510655906557,
    0x0555f0654f0655806555065540659c0659b065ac065cf065cb065cc065ce0665d0665a0666406668,
    0x066660665e066f9052d70671b06881068af068a206893068b50687f06876068b1068a706897068b0,
    0x06883068c4068ad0688606885068940689d068a80689f068a10688206b3206bba06beb06bec06c2b,
    0x06d8e06dbc06df306dd906db206de106dcc06de406dfb06dfa06e0506dc706dcb06daf06dd106dae,
    0x06dde06df906db806df706df506dc506dd206e1a06db506dda06deb06dd806dea06df106dee06de8,
    0x06dc606dc406daa06dec06dbf06de6070f9071090710a070fd070ef0723d0727d072810731c0731b,
    0x07316073130731907387074050740a0740307406073fe0740d074e0074f6074f70751c0752207565,
    0x0756607562075700758f075d4075d5075b5075ca075cd0768e076d4076d2076db077370773e0773c,
    0x07736077380773a0786b078430784e07965079680796d079fb07a9207a9507b2007b2807b1b07b2c,
    0x07b2607b1907b1e07b2e07c9207c9707c9507d4607d4307d7107d2e07d3907d3c07d4007d3007d33,
    0x07d4407d2f07d4207d3207d3107f3d07f9e07f9a07fcc07fce07fd20801c0804a080460812f08116,
    0x081230812b08129081300812408202082350823708236082390838e0839e0839808378083a208396,
    0x083bd083ab083920838a0839308389083a0083770837b0837c08386083a70865505f6a086c7086c0,
    0x086b6086c4086b5086c6086cb086b1086af086c9088530889e08888088ab08892088960888d0888b,
    0x089930898f08a2a08a1d08a2308a2508a3108a2d08a1f08a1b08a2208c4908c5a08ca908cac08cab,
    0x08ca808caa08ca708d6708d6608dbe08dba08edb08edf090190900d0901a09017090230901f0901d,
    0x09010090150901e090200900f09022090160901b09014090e8090ed090fd09157091ce091f5091e6,
    0x091e3091e7091ed091e9095890966a096750967309678096700967409676096770966c096c0096ea,
    0x096e907ae007adf098020980309b5a09ce509e7509e7f09ea509ebb050a20508d050850509905091,
    0x0508005096050980509a06700051f105272052740527505269052de052dd052db0535a053a50557b,
    0x05580055a70557c0558a0559d05598055820559c055aa05594055870558b05583055b3055ae0559f,
    0x0553e055b20559a055bb055ac055b10557e05589055ab055990570d0582f0582a058340582405830,
    0x05831058210581d05820058f9058fa0596005a7705a9a05a7f05a9205a9b05aa705b7305b7105bd2,
    0x05bcc05bd305bd005c0a05c0b05c3105d4c05d5005d3405d4705dfd05e4505e3d05e4005e4305e7e,
    0x05eca05ec105ec205ec405f3c05f6d05fa905faa05fa8060d1060e1060b2060b6060e00611c06123,
    0x060fa06115060f0060fb060f406168060f10610e060f60610906100061120621f06249063a30638c,
    0x063cf063c0063e9063c9063c6063cd063d2063e3063d0063e1063d6063ed063ee06376063f4063ea,
    0x063db06452063da063f90655e0656606562065630659106590065af0666e0667006674066760666f,
    0x066910667a0667e06677066fe066ff0671f0671d068fa068d5068e0068d8068d706905068df068f5,
    0x068ee068e7068f9068d2068f2068e3068cb068cd0690d069120690e068c9068da0696e068fb06b3e,
    0x06b3a06b3d06b9806b9606bbc06bef06c2e06c2f06c2c06e2f06e3806e5406e2106e3206e6706e4a,
    0x06e2006e2506e2306e1b06e5b06e5806e2406e5606e6e06e2d06e2606e6f06e3406e4d06e3a06e2c,
    0x06e4306e1d06e3e06ecb06e8906e1906e4e06e6306e4406e7206e6906e5f071190711a0712607130,
    0x07121071360716e0711c0724c0728407280073360732507334073290743a0742a074330742207425,
    0x0743507436074340742f0741b074260742807525075260756b0756a075e2075db075e3075d9075d8,
    0x075de075e00767b0767c0769607693076b4076dc0774f077ed0785d0786c0786f07a0d07a0807a0b,
    0x07a0507a0007a9807a9707a9607ae507ae307b4907b5607b4607b5007b5207b5407b4d07b4b07b4f,
    0x07b5107c9f07ca507d5e07d5007d6807d5507d2b07d6e07d7207d6107d6607d6207d7007d7305584,
    0x07fd407fd50800b080520808508155081540814b081510814e08139081460813e0814c0815308174,
    0x082120821c083e908403083f80840d083e0083c50840b083c1083ef083f1083f4084570840a083f0,
    0x0840c083cc083fd083f2083ca084380840e08404083dc08407083d4083df0865b086df086d9086ed,
    0x086d4086db086e4086d0086de08857088c1088c2088b1089830899608a3b08a6008a5508a5e08a3c,
    0x08a4108a5408a5b08a5008a4608a3408a3a08a3608a5608c6108c8208caf08cbc08cb308cbd08cc1,
    0x08cbb08cc008cb408cb708cb608cbf08cb808d8a08d8508d8108dce08ddd08dcb08dda08dd108dcc,
    0x08ddb08dc608efb08ef808efc08f9c0902e090350903109038090320903609102090f509109090fe,
    0x0916309165091cf092140921509223092090921e0920d092100920709211095940958f0958b09591,
    0x09593095920958e0968a0968e0968b0967d09685096860968d0967209684096c1096c5096c4096c6,
    0x096c7096ef096f2097cc098050980609808098e7098ea098ef098e9098f2098ed099ae099ad09ec3,
    0x09ecd09ed104e82050ad050b5050b2050b3050c5050be050ac050b7050bb050af050c70527f05277,
    0x0527d052df052e6052e4052e2052e30532f055df055e8055d3055e6055ce055dc055c7055d1055e3,
    0x055e4055ef055da055e1055c5055c6055e5055c905712057130585e0585105858058570585a05854,
    0x0586b0584c0586d0584a05862058520584b0596705ac105ac905acc05abe05abd05abc05ab305ac2,
    0x05ab205d6905d6f05e4c05e7905ec905ec805f1205f5905fac05fae0611a0610f061480611f060f3,
    0x0611b060f906101061080614e0614c061440614d0613e06134061270610d06106061370622106222,
    0x064130643e0641e0642a0642d0643d0642c0640f0641c064140640d064360641606417064060656c,
    0x0659f065b0066970668906687066880669606684066980668d06703069940696d0695a0697706960,
    0x069540697506930069820694a069680696b0695e0695306979069860695d069630695b06b4706b72,
    0x06bc006bbf06bd306bfd06ea206eaf06ed306eb606ec206e9006e9d06ec706ec506ea506e9806ebc,
    0x06eba06eab06ed106e9606e9c06ec406ed406eaa06ea706eb40714e0715907169071640714907167,
    0x0715c0716c071660714c071650715e0714607168071560723a0725207337073450733f0733e0746f,
    0x0745a074550745f0745e074410743f074590745b0745c075760757807600075f007601075f2075f1,
    0x075fa075ff075f4075f3076de076df0775b0776b077660775e07763077790776a0776c0775c07765,
    0x0776807762077ee0788e078b007897078980788c078890787c07891078930787f0797a0797f07981,
    0x0842c079bd07a1c07a1a07a2007a1407a1f07a1e07a9f07aa007b7707bc007b6007b6e07b6707cb1,
    0x07cb307cb507d9307d7907d9107d8107d8f07d5b07f6e07f6907f6a07f7207fa907fa807fa408056,
    0x080580808608084081710817008178081650816e081730816b081790817a08166082050824708482,
    0x084770843d0843108475084660846b084490846c0845b0843c084350846108463084690846d08446,
    0x0865e0865c0865f086f908713087080870708700086fe086fb0870208703087060870a08859088df,
    0x088d4088d9088dc088d8088dd088e1088ca088d5088d20899c089e308a6b08a7208a7308a6608a69,
    0x08a7008a8708a7c08a6308aa008a7108a8508a6d08a6208a6e08a6c08a7908a7b08a3e08a6808c62,
    0x08c8a08c8908cca08cc708cc808cc408cb208cc308cc208cc508de108ddf08de808def08df308dfa,
    0x08dea08de408de608eb208f0308f0908efe08f0a08f9f08fb20904b0904a0905309042090540903c,
    0x0905509050090470904f0904e0904d090510903e0904109112091170916c0916a09169091c909237,
    0x09257092380923d092400923e0925b0924b092640925109234092490924d09245092390923f0925a,
    0x09598096980969409695096cd096cb096c9096ca096f7096fb096f9096f609756097740977609810,
    0x09811098130980a098120980c098fc098f4098fd098fe099b3099b1099b409ae109ce909e8209f0e,
    0x09f1309f20050e7050ee050e5050d6050ed050da050d5050cf050d1050f1050ce050e905162051f3,
    0x052830528205331053ad055fe056000561b05617055fd0561405606056090560d0560e055f705616,
    0x0561f0560805610055f60571805716058750587e05883058930588a05879058850587d058fd05925,
    0x05922059240596a0596905ae105ae605ae905ad705ad605ad805ae305b7505bde05be705be105be5,
    0x05be605be805be205be405bdf05c0d05c6205d8405d8705e5b05e6305e5505e5705e5405ed305ed6,
    0x05f0a05f4605f7005fb9061470613f0614b0617706162061630615f0615a06158061750622a06487,
    0x0645806454064a4064780645f0647a0645106467064340646d0647b06572065a1065d7065d6066a2,
    0x066a80669d0699c069a806995069c1069ae069d3069cb0699b069b7069bb069ab069b4069d0069cd,
    0x069ad069cc069a6069c3069a306b4906b4c06c3306f3306f1406efe06f1306ef406f2906f3e06f20,
    0x06f2c06f0f06f0206f2206eff06eef06f0606f3106f3806f3206f2306f1506f2b06f2f06f8806f2a,
    0x06eec06f0106ef206ecc06ef707194071990717d0718a07184071920723e07292072960734407350,
    0x07464074630746a074700746d0750407591076270760d0760b0760907613076e1076e3077840777d,
    0x0777f07761078c10789f078a7078b3078a9078a30798e0798f0798d07a2e07a3107aaa07aa907aed,
    0x07aef07ba107b9507b8b07b7507b9707b9d07b9407b8f07bb807b8707b8407cb907cbd07cbe07dbb,
    0x07db007d9c07dbd07dbe07da007dca07db407db207db107dba07da207dbf07db507db807dad07dd2,
    0x07dc707dac07f7007fe007fe107fdf0805e0805a0808708150081800818f081880818a0817f08182,
    0x081e7081fa08207082140821e0824b084c9084bf084c6084c4084990849e084b20849c084cb084b8,
    0x084c0084d308490084bc084d1084ca0873f0871c0873b08722087250873408718087550873708729,
    0x088f308902088f4088f9088f8088fd088e80891a088ef08aa608a8c08a9e08aa308a8d08aa108a93,
    0x08aa408aaa08aa508aa808a9808a9108a9a08aa708c6a08c8d08c8c08cd308cd108cd208d6b08d99,
    0x08d9508dfc08f1408f1208f1508f1308fa309060090580905c09063090590905e090620905d0905b,
    0x09119091180911e0917509178091770917409278092800928509298092960927b092930929c092a8,
    0x0927c09291095a1095a8095a9095a3095a5095a4096990969c0969b096cc096d2097000977c09785,
    0x097f60981709818098af098b109903099050990c09909099c109aaf09ab009ae609b4109b4209cf4,
    0x09cf609cf309ebc09f3b09f4a0510405100050fb050f5050f905102051080510905105051dc05287,
    0x05288052890528d0528a052f0053b20562e0563b05639056320563f0563405629056530564e05657,
    0x05674056360562f05630058800589f0589e058b30589c058ae058a9058a60596d05b0905afb05b0b,
    0x05af505b0c05b0805bee05bec05be905beb05c6405c6505d9d05d9405e6205e5f05e6105ee205eda,
    0x05edf05edd05ee305ee005f4805f7105fb705fb506176061670616e0615d06155061820617c06170,
    0x0616b0617e061a706190061ab0618e061ac0619a061a406194061ae0622e064690646f064790649e,
    0x064b20648806490064b0064a50649306495064a906492064ae064ad064ab0649a064ac06499064a2,
    0x064b3065750657706578066ae066ab066b4066b106a2306a1f069e806a0106a1e06a19069fd06a21,
    0x06a1306a0a069f306a0206a05069ed06a1106b5006b4e06ba406bc506bc606f3f06f7c06f8406f51,
    0x06f6606f5406f8606f6d06f5b06f7806f6e06f8e06f7a06f7006f6406f9706f5806ed506f6f06f60,
    0x06f5f0719f071ac071b1071a8072560729b0734e07357074690748b074830747e074800757f07620,
    0x076290761f076240762607621076220769a076ba076e40778e077870778c077910778b078cb078c5,
    0x078ba078ca078be078d5078bc078d007a3f07a3c07a4007a3d07a3707a3b07aaf07aae07bad07bb1,
    0x07bc407bb407bc607bc707bc107ba007bcc07cca07de007df407def07dfb07dd807dec07ddd07de8,
    0x07de307dda07dde07de907d9e07dd907df207df907f7507f7707faf07fe9080260819b0819c0819d,
    0x081a00819a08198085170853d0851a084ee0852c0852d0851308511085230852108514084ec08525,
    0x084ff085060878208774087760876008766087780876808759087570874c087530885b0885d08910,
    0x089070891208913089150890a08abc08ad208ac708ac408a9508acb08af808ab208ac908ac208abf,
    0x08ab008ad608acd08ab608ab908adb08c4c08c4e08c6c08ce008cde08ce608ce408cec08ced08ce2,
    0x08ce308cdc08cea08ce108d6d08d9f08da308e2b08e1008e1d08e2208e0f08e2908e1f08e2108e1e,
    0x08eba08f1d08f1b08f1f08f2908f2608f2a08f1c08f1e08f25090690906e090680906d0907709130,
    0x0912d091270913109187091890918b09183092c5092bb092b7092ea092ac092e4092c1092b3092bc,
    0x092d2092c7092f0092b2095ad095b109704097060970709709097600978d0978b0978f098210982b,
    0x0981c098b30990a099130991209918099dd099d0099df099db099d1099d5099d2099d909ab709aee,
    0x09aef09b2709b4509b4409b7709b6f09d0609d0909d0309ea909ebe09ece058a809f520511205118,
    0x05114051100511505180051aa051dd0529105293052f3056590566b056790566905664056780566a,
    0x0566805665056710566f0566c0566205676058c1058be058c7058c50596e05b1d05b3405b7805bf0,
    0x05c0e05f4a061b206191061a90618a061cd061b6061be061ca061c806230064c5064c1064cb064bb,
    0x064bc064da064c4064c7064c2064cd064bf064d2064d4064be06574066c6066c9066b9066c4066c7,
    0x066b806a3d06a3806a3a06a5906a6b06a5806a3906a4406a6206a6106a4b06a4706a3506a5f06a48,
    0x06b5906b7706c0506fc206fb106fa106fc306fa406fc106fa706fb306fc006fb906fb606fa606fa0,
    0x06fb4071be071c9071d0071d2071c8071d5071b9071ce071d9071dc071c3071c4073680749c074a3,
    0x074980749f0749e074e20750c0750d07634076380763a076e7076e5077a00779e0779f077a5078e8,
    0x078da078ec078e7079a607a4d07a4e07a4607a4c07a4b07aba07bd907c1107bc907be407bdb07be1,
    0x07be907be607cd507cd607e0a07e1107e0807e1b07e2307e1e07e1d07e0907e1007f7907fb207ff0,
    0x07ff107fee08028081b3081a9081a8081fb0820808258082590854a0855908548085680856908543,
    0x085490856d0856a0855e087830879f0879e087a20878d088610892a08932089250892b08921089aa,
    0x089a608ae608afa08aeb08af108b0008adc08ae708aee08afe08b0108b0208af708aed08af308af6,
    0x08afc08c6b08c6d08c9308cf408e4408e3108e3408e4208e3908e3508f3b08f2f08f3808f3308fa8,
    0x08fa6090750907409078090720907c0907a09134091920932009336092f8093330932f09322092fc,
    0x0932b093040931a093100932609321093150932e09319095bb096a7096a8096aa096d50970e09711,
    0x097160970d097130970f0975b0975c097660979809830098380983b098370982d098390982409910,
    0x099280991e0991b099210991a099ed099e2099f109ab809abc09afb09aed09b2809b9109d1509d23,
    0x09d2609d2809d1209d1b09ed809ed409f8d09f9c0512a0511f0512105132052f50568e0568005690,
    0x05685056870568f058d5058d3058d1058ce05b3005b2a05b2405b7a05c3705c6805dbc05dba05dbd,
    0x05db805e6b05f4c05fbd061c9061c2061c7061e6061cb0623206234064ce064ca064d8064e0064f0,
    0x064e6064ec064f1064e2064ed0658206583066d9066d606a8006a9406a8406aa206a9c06adb06aa3,
    0x06a7e06a9706a9006aa006b5c06bae06bda06c0806fd806ff106fdf06fe006fdb06fe406feb06fef,
    0x06f8006fec06fe106fe906fd506fee06ff0071e7071df071ee071e6071e5071ed071ec071f4071e0,
    0x07235072460737007372074a9074b0074a6074a807646076420764c076ea077b3077aa077b0077ac,
    0x077a7077ad077ef078f7078fa078f4078ef07901079a7079aa07a5707abf07c0707c0d07bfe07bf7,
    0x07c0c07be007ce007cdc07cde07ce207cdf07cd907cdd07e2e07e3e07e4607e3707e3207e4307e2b,
    0x07e3d07e3107e4507e4107e3407e3907e4807e3507e3f07e2f07f4407ff307ffc080710807208070,
    0x0806f08073081c6081c3081ba081c2081c0081bf081bd081c9081be081e80820908271085aa08584,
    0x0857e0859c0859108594085af0859b08587085a80858a08667087c0087d1087b3087d2087c6087ab,
    0x087bb087ba087c8087cb0893b0893608944089380893d089ac08b0e08b1708b1908b1b08b0a08b20,
    0x08b1d08b0408b1008c4108c3f08c7308cfa08cfd08cfc08cf808cfb08da808e4908e4b08e4808e4a,
    0x08f4408f3e08f4208f4508f3f0907f0907d0908409081090820908009139091a30919e0919c0934d,
    0x0938209328093750934a093650934b093180937e0936c0935b093700935a09354095ca095cb095cc,
    0x095c8095c6096b1096b8096d60971c0971e097a0097d309846098b60993509a01099ff09bae09bab,
    0x09baa09bad09d3b09d3f09e8b09ecf09ede09edc09edd09edb09f3e09f4b053e205695056ae058d9,
    0x058d805b3805f5d061e306233064f4064f2064fe06506064fa064fb064f7065b7066dc0672606ab3,
    0x06aac06ac306abb06ab806ac206aae06aaf06b5f06b7806baf070090700b06ffe0700606ffa07011,
    0x0700f071fb071fc071fe071f80737707375074a7074bf07515076560765807652077bd077bf077bb,
    0x077bc0790e079ae07a6107a6207a6007ac407ac507c2b07c2707c2a07c1e07c2307c2107ce707e54,
    0x07e5507e5e07e5a07e6107e5207e5907f4807ff907ffb0807708076081cd081cf0820a085cf085a9,
    0x085cd085d0085c9085b0085ba085b9085a6087ef087ec087f2087e008986089b2089f408b2808b39,
    0x08b2c08b2b08c5008d0508e5908e6308e6608e6408e5f08e5508ec008f4908f4d090870908309088,
    0x091ab091ac091d0093940938a09396093a2093b3093ae093ac093b0093980939a09397095d4095d6,
    0x095d0095d5096e2096dc096d9096db096de09724097a3097a6097ad097f90984d0984f0984c0984e,
    0x09853098ba0993e0993f0993d0992e099a509a0e09ac109b0309b0609b4f09b4e09b4d09bca09bc9,
    0x09bfd09bc809bc009d5109d5d09d6009ee009f1509f2c05133056a5058de058df058e205bf509f90,
    0x05eec061f2061f7061f6061f5065000650f066e0066dd06ae506add06ada06ad30701b0701f07028,
    0x0701a0701d0701507018072060720d07258072a2073780737a074bd074ca074e307587075860765f,
    0x07661077c707919079b107a6b07a6907c3e07c3f07c3807c3d07c3707c4007e6b07e6d07e7907e69,
    0x07e6a07f8507e7307fb607fb907fb8081d8085e9085dd085ea085d5085e4085e5085f7087fb08805,
    0x0880d087f9087fe089600895f089560895e08b4108b5c08b5808b4908b5a08b4e08b4f08b4608b59,
    0x08d0808d0a08e7c08e7208e8708e7608e6c08e7a08e7408f5408f4e08fad0908a0908b091b1091ae,
    0x093e1093d1093df093c3093c8093dc093dd093d6093e2093cd093d8093e4093d7093e8095dc096b4,
    0x096e30972a0972709761097dc097fb0985e098580985b098bc099450994909a1609a1909b0d09be8,
    0x09be709bd609bdb09d8909d6109d7209d6a09d6c09e9209e9709e9309eb4052f8056a8056b7056b6,
    0x056b4056bc058e405b4005b4305b7d05bf605dc9061f8061fa065180651406519066e60672706aec,
    0x0703e0703007032072100737b074cf0766207665079260792a0792c0792b07ac707af607c4c07c43,
    0x07c4d07cef07cf008fae07e7d07e7c07e8207f4c08000081da08266085fb085f908611085fa08606,
    0x0860b086070860a088140881508964089ba089f808b7008b6c08b6608b6f08b5f08b6b08d0f08d0d,
    0x08e8908e8108e8508e82091b4091cb0941809403093fd095e109730098c40995209951099a809a2b,
    0x09a3009a3709a3509c1309c0d09e7909eb509ee809f2f09f5f09f6309f610513705138056c1056c0,
    0x056c20591405c6c05dcd061fc061fe0651d0651c06595066e906afb06b0406afa06bb20704c0721b,
    0x072a7074d6074d407669077d307c5007e8f07e8c07fbc086170862d0861a0882308822088210881f,
    0x0896a0896c089bd08b7408b7708b7d08d1308e8a08e8d08e8b08f5f08faf091ba0942e0943309435,
    0x0943a09438094320942b095e2097380973909732097ff09867098650995709a4509a4309a4009a3e,
    0x09acf09b5409b5109c2d09c2509daf09db409dc209db809e9d09eef09f1909f5c09f6609f670513c,
    0x0513b056c8056ca056c905b7f05dd405dd205f4e061ff0652406b0a06b61070510705807380074e4,
    0x0758a0766e0766c079b307c6007c5f0807e0807d081df089720896f089fc08b8008d1608d1708e91,
    0x08e9308f61091480944409451094520973d0973e097c3097c10986b0995509a5509a4d09ad209b1a,
    0x09c4909c3109c3e09c3b09dd309dd709f3409f6c09f6a09f94056cc05dd606200065230652b0652a,
    0x066ec06b10074da07aca07c6407c6307c6507e9307e9607e94081e2086380863f0883108b8a09090,
    0x0908f094630946009464097680986f0995c09a5a09a5b09a5709ad309ad409ad109c5409c5709c56,
    0x09de509e9f09ef4056d1058e90652c0705e0767107672077d707f5007f8808836088390886208b93,
    0x08b9208b960827708d1b091c00946a097420974809744097c60987009a5f09b2209b5809c5f09df9,
    0x09dfa09e7c09e7d09f0709f7709f7205ef306b160706307c6c07c6e0883b089c008ea1091c109472,
    0x09470098710995e09ad609b2309ecc07064077da08b9a09477097c909a6209a6507e9c08b9c08eaa,
    0x091c50947d0947e0947c09c7709c7809ef708c540947f09e1a0722809a6a09b3109e1b09e1e07c72,
    0x02460024610246202463024640246502466024670246802469024740247502476024770247802479,
    0x0247a0247b0247c0247d0217002171021720217302174021750217602177021780217904e3604e3f,
    0x04e8504ea00518205196051ab052f90533805369053b60590a05b8005ddb02f3305e7f05ef405f50,
    0x05f6106534065e0075920767608fb5096b6000a8002c6030fd030fe0309d0309e0300304edd03005,
    0x0300603007030fc0ff3b0ff3d0273d0304103042030430304403045030460304703048030490304a,
    0x0304b0304c0304d0304e0304f030500305103052030530305403055030560305703058030590305a,
    0x0305b0305c0305d0305e0305f030600306103062030630306403065030660306703068030690306a,
    0x0306b0306c0306d0306e0306f030700307103072030730307403075030760307703078030790307a,
    0x0307b0307c0307d0307e0307f030800308103082030830308403085030860308703088030890308a,
    0x0308b0308c0308d0308e0308f03090030910309203093030a1030a2030a3030a4030a5030a6030a7,
    0x030a8030a9030aa030ab030ac030ad030ae030af030b0030b1030b2030b3030b4030b5030b6030b7,
    0x030b8030b9030ba030bb030bc030bd030be030bf030c0030c1030c2030c3030c4030c5030c6030c7,
    0x030c8030c9030ca030cb030cc030cd030ce030cf030d0030d1030d2030d3030d4030d5030d6030d7,
    0x030d8030d9030da030db030dc030dd030de030df030e0030e1030e2030e3030e4030e5030e6030e7,
    0x030e8030e9030ea030eb030ec030ed030ee030ef030f0030f1030f2030f3030f4030f5030f600410,
    0x004110041200413004140041500401004160041700418004190041a0041b0041c0041d0041e0041f,
    0x004200042100422004230042400425004260042700428004290042a0042b0042c0042d0042e0042f,
    0x00430004310043200433004340043500451004360043700438004390043a0043b0043c0043d0043e,
    0x0043f004400044100442004430044400445004460044700448004490044a0044b0044c0044d0044e,
    0x0044f021e7021b8021b9031cf200cc04e5a2008a052020449109fb00518809fb1276070000000000,
    0,
    0,
    0x0000000000000000000000000000000ffe20ffe40ff070ff020323102116021210309b0309c02e80,
    0x02e8402e8602e8702e8802e8a02e8c02e8d02e9502e9c02e9d02ea502ea702eaa02eac02eae02eb6,
    0x02ebc02ebe02ec602eca02ecc02ecd02ecf02ed602ed702ede02ee30000000000000000028300250,
    0x0025b002540027500153000f80014b0028a0026a04e4204e5c051f50531a0538204e0704e0c04e47,
    0x04e8d056d70fa0c05c6e05f7304e0f0518704e0e04e2e04e9304ec204ec904ec805198052fc0536c,
    0x053b905720059030592c05c1005dff065e106bb306bcc06c140723f04e3104e3c04ee804edc04ee9,
    0x04ee104edd04eda0520c0531c0534c0572205723059170592f05b8105b8405c1205c3b05c7405c73,
    0x05e0405e8005e8205fc9062090625006c1506c3606c4306c3f06c3b072ae072b00738a079b80808a,
    0x0961e04f0e04f1804f2c04ef504f1404ef104f0004ef704f0804f1d04f0204f0504f2204f1304f04,
    0x04ef404f12051b1052130520905210052a6053220531f0534d0538a05407056e1056df0572e0572a,
    0x057340593c059800597c059850597b0597e059770597f05b5605c1505c2505c7c05c7a05c7b05c7e,
    0x05ddf05e7505e8405f0205f1a05f7405fd505fd405fcf0625c0625e0626406261062660626206259,
    0x062600625a06265065ef065ee0673e06739067380673b0673a0673f0673c0673306c1806c4606c52,
    0x06c5c06c4f06c4a06c5406c4b06c4c070710725e072b4072b50738e0752a0767f07a7507f5108278,
    0x0827c082800827d0827f0864d0897e0909909097090980909b090940962209624096200962304f56,
    0x04f3b04f6204f4904f5304f6404f3e04f6704f5204f5f04f4104f5804f2d04f3304f3f04f610518f,
    0x051b90521c0521e05221052ad052ae0530905363053720538e0538f05430054370542a0545405445,
    0x054190541c05425054180543d0544f05441054280542405447056ee056e7056e505741057450574c,
    0x057490574b057520590605940059a605998059a0059970598e059a2059900598f059a7059a105b8e,
    0x05b9205c2805c2a05c8d05c8f05c8805c8b05c8905c9205c8a05c8605c9305c9505de005e0a05e0e,
    0x05e8b05e8905e8c05e8805e8d05f0505f1d05f7805f7605fd205fd105fd005fed05fe805fee05ff3,
    0x05fe105fe405fe305ffa05fef05ff705ffb0600005ff40623a062830628c0628e0628f0629406287,
    0x062710627b0627a062700628106288062770627d062720627406537065f0065f4065f3065f2065f5,
    0x067450674706759067550674c067480675d0674d0675a0674b06bd006c1906c1a06c7806c6706c6b,
    0x06c8406c8b06c8f06c7106c6f06c6906c9a06c6d06c8706c9506c9c06c6606c7306c6506c7b06c8e,
    0x070740707a07263072bf072bd072c3072c6072c1072ba072c507395073970739307394073920753a,
    0x075390759407595076810793d08034080950809908090080920809c082900828f082850828e08291,
    0x082930828a082830828408c7808fc908fbf0909f090a1090a50909e090a7090a009630096280962f,
    0x0962d04e3304f9804f7c04f8504f7d04f8004f8704f7604f7404f8904f8404f7704f4c04f9704f6a,
    0x04f9a04f7904f8104f7804f9004f9c04f9404f9e04f9204f8204f9504f6b04f6e0519e051bc051be,
    0x0523505232052330524605231052bc0530a0530b0533c0539205394054870547f054810549105482,
    0x054880546b0547a0547e054650546c05474054660548d0546f054610546005498054630546705464,
    0x056f7056f90576f057720576d0576b05771057700577605780057750577b05773057740576205768,
    0x0577d0590c05945059b5059ba059cf059ce059b2059cc059c1059b6059bc059c3059d6059b1059bd,
    0x059c0059c8059b4059c705b6205b6505b9305b9505c4405c4705cae05ca405ca005cb505caf05ca8,
    0x05cac05c9f05ca305cad05ca205caa05ca705c9d05ca505cb605cb005ca605e1705e1405e1905f28,
    0x05f2205f2305f2405f5405f8205f7e05f7d05fde05fe50602d0602606019060320600b060340600a,
    0x06017060330601a0601e0602c060220600d060100602e06013060110600c060090601c062140623d,
    0x062ad062b4062d1062be062aa062b6062ca062ae062b3062af062bb062a9062b0062b80653d065a8,
    0x065bb06609065fc066040661206608065fb066030660b0660d06605065fd0661106610066f60670a,
    0x067850676c0678e06792067760677b067980678606784067740678d0678c0677a0679f0679106799,
    0x067830677d0678106778067790679406b2506b8006b7e06bde06c1d06c9306cec06ceb06cee06cd9,
    0x06cb606cd406cad06ce706cb706cd006cc206cba06cc306cc606ced06cf206cd206cdd06cb406c8a,
    0x06c9d06c8006cde06cc006d3006ccd06cc706cb006cf906ccf06ce906cd107094070980708507093,
    0x07086070840709107096070820709a070830726a072d6072cb072d8072c9072dc072d2072d4072da,
    0x072cc072d1073a4073a1073ad073a6073a2073a0073ac0739d074dd074e80753f075400753e0758c,
    0x07598076af076f3076f1076f0076f5077f8077fc077f9077fb077fa077f7079420793f079c507a78,
    0x07a7b07afb07c7507cfd080350808f080ae080a3080b8080b5080ad08220082a0082c0082ab0829a,
    0x082980829b082b5082a7082ae082bc0829e082ba082b4082a8082a1082a9082c2082a4082c3082b6,
    0x082a2086700866f0866d0866e08c5608fd208fcb08fd308fcd08fd608fd508fd7090b2090b4090af,
    0x090b3090b0096390963d0963c0963a0964304fcd04fc504fd304fb204fc904fcb04fc104fd404fdc,
    0x04fd904fbb04fb304fdb04fc704fd604fba04fc004fb904fec0524405249052c0052c20533d0537c,
    0x05397053960539905398054ba054a1054ad054a5054cf054c30830d054b7054ae054d6054b6054c5,
    0x054c6054a005470054bc054a2054be05472054de054b0057b50579e0579f057a40578c057970579d,
    0x0579b05794057980578f05799057a50579a05795058f40590d05953059e1059de059ee05a00059f1,
    0x059dd059fa059fd059fc059f6059e4059f2059f7059db059e9059f3059f5059e0059fe059f4059ed,
    0x05ba805c4c05cd005cd805ccc05cd705ccb05cdb05cde05cda05cc905cc705cca05cd605cd305cd4,
    0x05ccf05cc805cc605cce05cdf05cf805df905e2105e2205e2305e2005e2405eb005ea405ea205e9b,
    0x05ea305ea505f0705f2e05f5605f86060370603906054060720605e060450605306047060490605b,
    0x0604c06040060420605f060240604406058060660606e0624206243062cf0630d0630b062f50630e,
    0x06303062eb062f90630f0630c062f8062f6063000631306314062fa06315062fb062f00654106543,
    0x065aa065bf066360662106632066350661c0662606622066330662b0663a0661d06634066390662e,
    0x0670f06710067c1067f2067c8067ba067dc067bb067f8067d8067c0067b7067c5067eb067e4067df,
    0x067b5067cd067b3067f7067f6067ee067e3067c2067b9067ce067e7067f0067b2067fc067c6067ed,
    0x067cc067ae067e6067db067fa067c9067ca067c3067ea067cb06b2806b8206b8406bb606bd606bd8,
    0x06be006c2006c2106d2806d3406d2d06d1f06d3c06d3f06d1206d0a06cda06d3306d0406d1906d3a,
    0x06d1a06d1106d0006d1d06d4206d0106d1806d3706d0306d0f06d4006d0706d2006d2c06d0806d22,
    0x06d0906d10070b70709f070be070b1070b0070a1070b4070b5070a907241072490724a0726c07270,
    0x072730726e072ca072e4072e8072eb072df072ea072e6072e307385073cc073c2073c8073c5073b9,
    0x073b6073b5073b4073eb073bf073c7073be073c3073c6073b8073cb074ec074ee0752e0754707548,
    0x075a7075aa07679076c4077080770307704077050770a076f7076fb076fa077e7077e80780607811,
    0x0781207805078100780f0780e0780907803078130794a0794c0794b0794507944079d5079cd079cf,
    0x079d6079ce07a8007a7e07ad107b0007b0107c7a07c7807c7907c7f07c8007c8107d0307d0807d01,
    0x07f5807f9107f8d07fbe080070800e0800f0801408037080d8080c7080e0080d1080c8080c2080d0,
    0x080c5080e3080d9080dc080ca080d5080c9080cf080d7080e6080cd081ff0822108294082d9082fe,
    0x082f908307082e808300082d50833a082eb082d6082f4082ec082e1082f2082f50830c082fb082f6,
    0x082f0082ea082e4082e0082fa082f3082ed08677086740867c08673088410884e088670886a08869,
    0x089d308a0408a0708d7208fe308fe108fee08fe0090f1090bd090bf090d5090c5090be090c7090cb,
    0x090c8091d4091d3096540964f09651096530964a0964e0501e05005050070501305022050300501b,
    0x04ff504ff405033050370502c04ff604ff7050170501c0502005027050350502f050310500e0515a,
    0x0519405193051ca051c4051c5051c8051ce052610525a052520525e0525f0525505262052cd0530e,
    0x0539e05526054e20551705512054e7054f3054e40551a054ff0550405508054eb0551105505054f1,
    0x0550a054fb054f7054f8054e00550e055030550b0570105702057cc05832057d5057d2057ba057c6,
    0x057bd057bc057b8057b6057bf057c7057d0057b9057c10590e0594a05a1905a1605a2d05a2e05a15,
    0x05a0f05a1705a0a05a1e05a3305b6c05ba705bad05bac05c0305c5605c5405cec05cff05cee05cf1,
    0x05cf705d0005cf905e2905e2805ea805eae05eaa05eac05f3305f3005f670605d0605a0606706041,
    0x060a2060880608006092060810609d06083060950609b06097060870609c0608e0621906246062f2,
    0x06310063560632c06344063450633606343063e4063390634b0634a0633c06329063410633406358,
    0x06354063590632d06347063330635a06351063380635706340063480654a06546065c6065c3065c4,
    0x065c20664a0665f066470665106712067130681f0681a0684906832068330683b0684b0684f06816,
    0x068310681c068350682b0682d0682f0684e06844068340681d068120681406826068280682e0684d,
    0x0683a068250682006b2c06b2f06b2d06b3106b3406b6d0808206b8806be606be406be806be306be2,
    0x06be706c2506d7a06d6306d6406d7606d0d06d6106d9206d5806d6206d6d06d6f06d9106d8d06def,
    0x06d7f06d8606d5e06d6706d6006d9706d7006d7c06d5f06d8206d9806d2f06d6806d8b06d7e06d80,
    0x06d8406d1606d8306d7b06d7d06d7506d90070dc070d3070d1070dd070cb07f39070e2070d7070d2,
    0x070de070e0070d4070cd070c5070c6070c7070da070ce070e10724207278072770727607300072fa,
    0x072f4072fe072f6072f3072fb07301073d3073d9073e5073d6073bc073e7073e3073e9073dc073d2,
    0x073db073d4073dd073da073d7073d8073e8074de074df074f4074f5075210755b0755f075b0075c1,
    0x075bb075c4075c0075bf075b6075ba0768a076c90771d0771b077100771307712077230771107715,
    0x077190771a0772207727078230782c07822078350782f078280782e0782b0782107829078330782a,
    0x07831079540795b0794f0795c079530795207951079eb079ec079e0079ee079ed079ea079dc079de,
    0x079dd07a8607a8907a8507a8b07a8c07a8a07a8707ad807b1007b0407b1307b0507b0f07b0807b0a,
    0x07b0e07b0907b1207c8407c9107c8a07c8c07c8807c8d07c8507d1e07d1d07d1107d0e07d1807d16,
    0x07d1307d1f07d1207d0f07d0c07f5c07f6107f5e07f6007f5d07f5b07f9607f9207fc307fc207fc0,
    0x080160803e08039080fa080f2080f9080f508101080fb08100082010822f08225083330832d08344,
    0x083190835108325083560833f08341083260831c08322083420834e0831b0832a083080833c0834d,
    0x083160832408320083370832f0832908347083450834c083530831e0832c0834b083270834808653,
    0x08652086a2086a8086960868d086910869e0868708697086860868b0869a08685086a508699086a1,
    0x086a708695086980868e0869d086900869408843088440886d08875088760887208880088710887f,
    0x0886f088830887e088740887c08a1208c4708c5708c7b08ca408ca308d7608d7808db508db708db6,
    0x08ed108ed308ffe08ff50900208fff08ffb0900408ffc08ff6090d6090e0090d9090da090e3090df,
    0x090e5090d8090db090d7090dc090e4091500914e0914f091d5091e2091da0965c0965f096bc098e3,
    0x09adf09b2f04e7f050700506a050610505e05060050530504b0505d05072050480504d050410505b,
    0x0504a0506205015050450505f050690506b050630506405046050400506e050730505705051051d0,
    0x0526b0526d0526c0526e052d6052d30532d0539c05575055760553c0554d05550055340552a05551,
    0x0556205536055350553005552055450550c05532055650554e05539055480552d0553b055400554b,
    0x0570a05707057fb05814057e2057f6057dc057f405800057ed057fd05808057f80580b057f3057cf,
    0x05807057ee057e3057f2057e5057ec057e10580e057fc05810057e7058010580c057f1057e9057f0,
    0x0580d058040595c05a6005a5805a5505a6705a5e05a3805a3505a6d05a5005a5f05a6505a6c05a53,
    0x05a6405a5705a4305a5d05a5205a4405a5b05a4805a8e05a3e05a4d05a3905a4c05a7005a6905a47,
    0x05a5105a5605a4205a5c05b7205b6e05bc105bc005c5905d1e05d0b05d1d05d1a05d2005d0c05d28,
    0x05d0d05d2605d2505d0f05d3005d1205d2305d1f05d2e05e3e05e3405eb105eb405eb905eb205eb3,
    0x05f3605f3805f9b05f9605f9f0608a0609006086060be060b0060ba060d3060d4060cf060e4060d9,
    0x060dd060c8060b1060db060b7060ca060bf060c3060cd060c006332063650638a063820637d063bd,
    0x0639e063ad0639d06397063ab0638e0636f06387063900636e063af063750639c0636d063ae0637c,
    0x063a40633b0639f063780638506381063910638d0637006553065cd06665066610665b066590665c,
    0x06662067180687906887068900689c0686d0686e068ae068ab069560686f068a3068ac068a906875,
    0x06874068b20688f06877068920687c0686b06872068aa06880068710687e0689b068960688b068a0,
    0x06889068a4068780687b068910688c0688a0687d06b3606b3306b3706b3806b9106b8f06b8d06b8e,
    0x06b8c06c2a06dc006dab06db406db306e7406dac06de906de206db706df606dd406e0006dc806de0,
    0x06ddf06dd606dbe06de506ddc06ddd06ddb06df406dca06dbd06ded06df006dba06dd506dc206dcf,
    0x06dc906dd006df206dd306dfd06dd706dcd06de306dbb070fa0710d070f707117070f40710c070f0,
    0x07104070f307110070fc070ff071060711307100070f8070f60710b071020710e0727e0727b0727c,
    0x0727f0731d073170730707311073180730a07308072ff0730f0731e07388073f6073f8073f507404,
    0x07401073fd0740707400073fa073fc073ff0740c0740b073f4074080756407563075ce075d2075cf,
    0x075cb075cc075d1075d00768f07689076d3077390772f0772d077310773207734077330773d07725,
    0x0773b077350784807852078490784d0784a0784c0782607845078500796407967079690796a07963,
    0x0796b07961079bb079fa079f8079f6079f707a8f07a9407a9007b3507b4707b3407b2507b3007b22,
    0x07b2407b3307b1807b2a07b1d07b3107b2b07b2d07b2f07b3207b3807b1a07b2307c9407c9807c96,
    0x07ca307d3507d3d07d3807d3607d3a07d4507d2c07d2907d4107d4707d3e07d3f07d4a07d3b07d28,
    0x07f6307f9507f9c07f9d07f9b07fca07fcb07fcd07fd007fd107fc707fcf07fc90801f0801e0801b,
    0x0804708043080480811808125081190811b0812d0811f0812c0811e0812108115081270811d08122,
    0x0821108238082330823a08234082320827408390083a3083a80838d0837a08373083a4083740838f,
    0x0838108395083990837508394083a90837d083830838c0839d0839b083aa0838b0837e083a5083af,
    0x0838808397083b00837f083a608387083ae083760839a0865908656086bf086b7086c2086c1086c5,
    0x086ba086b0086c8086b9086b3086b8086cc086b4086bb086bc086c3086bd086be088520888908895,
    0x088a8088a2088aa0889a08891088a10889f08898088a7088990889b08897088a4088ac0888c08893,
    0x0888e08982089d6089d9089d508a3008a2708a2c08a1e08c3908c3b08c5c08c5d08c7d08ca508d7d,
    0x08d7b08d7908dbc08dc208db908dbf08dc108ed808ede08edd08edc08ed708ee008ee1090240900b,
    0x090110901c0900c09021090ef090ea090f0090f4090f2090f3090d4090eb090ec090e90915609158,
    0x0915a0915309155091ec091f4091f1091f3091f8091e4091f9091ea091eb091f7091e8091ee0957a,
    0x09586095880967c0966d0966b096710966f096bf0976a09804098e5099970509b05095050940509e,
    0x0508b050a3050830508c0508e0509d050680509c0509205082050870515f051d40531205311053a4,
    0x053a705591055a8055a5055ad0557705645055a205593055880558f055b505581055a305592055a4,
    0x0557d0558c055a60557f05595055a10558e0570c0582905837058190581e058270582305828057f5,
    0x05848058250581c0581b058330583f058360582e05839058380582d0582c0583b0596105aaf05a94,
    0x05a9f05a7a05aa205a9e05a7805aa605a7c05aa505aac05a9505aae05a3705a8405a8a05a9705a83,
    0x05a8b05aa905a7b05a7d05a8c05a9c05a8f05a9305a9d05bea05bcd05bcb05bd405bd105bca05bce,
    0x05c0c05c3005d3705d4305d6b05d4105d4b05d3f05d3505d5105d4e05d5505d3305d3a05d5205d3d,
    0x05d3105d5905d4205d3905d4905d3805d3c05d3205d3605d4005d4505e4405e4105f5805fa605fa5,
    0x05fab060c9060b9060cc060e2060ce060c406114060f20610a0611606105060f506113060f8060fc,
    0x060fe060c106103061180611d06110060ff061040610b0624a06394063b1063b0063ce063e5063e8,
    0x063ef063c30649d063f3063ca063e0063f6063d5063f2063f506461063df063be063dd063dc063c4,
    0x063d8063d3063c2063c7063cc063cb063c8063f0063d7063d906532065670656a065640655c06568,
    0x065650658c0659d0659e065ae065d0065d20667c0666c0667b0668006671066790666a0667206701,
    0x0690c068d306904068dc0692a068ec068ea068f10690f068d6068f7068eb068e4068f60691306910,
    0x068f3068e106907068cc0690806970068b406911068ef068c606914068f8068d0068fd068fc068e8,
    0x0690b0690a06917068ce068c8068dd068de068e6068f4068d106906068d4068e90691506925068c7,
    0x06b3906b3b06b3f06b3c06b9406b9706b9906b9506bbd06bf006bf206bf306c3006dfc06e4606e47,
    0x06e1f06e4906e8806e3c06e3d06e4506e6206e2b06e3f06e4106e5d06e7306e1c06e3306e4b06e40,
    0x06e5106e3b06e0306e2e06e5e06e6806e5c06e6106e3106e2806e6006e7106e6b06e3906e2206e30,
    0x06e5306e6506e2706e7806e6406e7706e5506e7906e5206e6606e3506e3606e5a071200711e0712f,
    0x070fb0712e07131071230712507122071320711f071280713a0711b0724b0725a072880728907286,
    0x072850728b073120730b0733007322073310733307327073320732d0732607323073350730c0742e,
    0x0742c074300742b074160741a074210742d0743107424074230741d074290742007432074fb0752f,
    0x0756f0756c075e7075da075e1075e6075dd075df075e4075d70769507692076da077460774707744,
    0x0774d077450774a0774e0774b0774c077de077ec0786007864078650785c0786d078710786a0786e,
    0x0787007869078680785e078620797407973079720797007a0207a0a07a0307a0c07a0407a9907ae6,
    0x07ae407b4a07b3b07b4407b4807b4c07b4e07b4007b5807b4507ca207c9e07ca807ca107d5807d6f,
    0x07d6307d5307d5607d6707d6a07d4f07d6d07d5c07d6b07d5207d5407d6907d5107d5f07d4e07f3e,
    0x07f3f07f6507f6607fa207fa007fa107fd7080510804f08050080fe080d4081430814a081520814f,
    0x081470813d0814d0813a081e6081ee081f7081f8081f9082040823c0823d0823f082750833b083cf,
    0x083f908423083c0083e808412083e7083e4083fc083f608410083c6083c8083eb083e3083bf08401,
    0x083dd083e5083d8083ff083e1083cb083ce083d6083f5083c9084090840f083de0841108406083c2,
    0x083f3083d5083fa083c7083d1083ea08413083c3083ec083ee083c4083fb083d7083e20841b083db,
    0x083fe086d8086e2086e6086d3086e3086da086ea086dd086eb086dc086ec086e9086d7086e8086d1,
    0x088480885608855088ba088d7088b9088b8088c0088be088b6088bc088b7088bd088b208901088c9,
    0x089950899808997089dd089da089db08a4e08a4d08a3908a5908a4008a5708a5808a4408a4508a52,
    0x08a4808a5108a4a08a4c08a4f08c5f08c8108c8008cba08cbe08cb008cb908cb508d8408d8008d89,
    0x08dd808dd308dcd08dc708dd608ddc08dcf08dd508dd908dc808dd708dc508eef08ef708efa08ef9,
    0x08ee608eee08ee508ef508ee708ee808ef608eeb08ef108eec08ef408ee90902d090340902f09106,
    0x0912c09104090ff090fc09108090f9090fb091010910009107091050910309161091640915f09162,
    0x09160092010920a09225092030921a092260920f0920c0920009212091ff091fd092060920409227,
    0x092020921c09224092190921709205092160957b0958d0958c09590096870967e096880968909683,
    0x09680096c2096c8096c3096f1096f00976c097700976e09807098a9098eb09ce609ef904e8304e84,
    0x04eb6050bd050bf050c6050ae050c4050ca050b4050c8050c2050b0050c1050ba050b1050cb050c9,
    0x050b6050b8051d70527a052780527b0527c055c3055db055cc055d0055cb055ca055dd055c0055d4,
    0x055c4055e9055bf055d20558d055cf055d5055e2055d6055c8055f2055cd055d9055c20571405853,
    0x05868058640584f0584d058490586f058550584e0585d05859058650585b0583d0586305871058fc,
    0x05ac705ac405acb05aba05ab805ab105ab505ab005abf05ac805abb05ac605ab705ac005aca05ab4,
    0x05ab605acd05ab905a9005bd605bd805bd905c1f05c3305d7105d6305d4a05d6505d7205d6c05d5e,
    0x05d6805d6705d6205df005e4f05e4e05e4a05e4d05e4b05ec505ecc05ec605ecb05ec705f4005faf,
    0x05fad060f7061490614a0612b0614506136061320612e061460612f0614f06129061400622009168,
    0x062230622506224063c5063f1063eb064100641206409064200642406433064430641f0641506418,
    0x064390643706422064230640c06426064300642806441064350642f0640a0641a064400642506427,
    0x0640b063e70641b0642e064210640e0656f06592065d3066860668c06695066900668b0668a06699,
    0x066940667806720069660695f069380694e06962069710693f069450696a06939069420695706959,
    0x0697a0694806949069350696c069330693d06965068f0069780693406969069400696f0694406976,
    0x0695806941069740694c0693b0694b069370695c0694f0695106932069520692f0697b0693c06b46,
    0x06b4506b4306b4206b4806b4106b9b0fa0d06bfb06bfc06bf906bf706bf806e9b06ed606ec806e8f,
    0x06ec006e9f06e9306e9406ea006eb106eb906ec606ed206ebd06ec106e9e06ec906eb706eb006ecd,
    0x06ea606ecf06eb206ebe06ec306edc06ed806e9906e9206e8e06e8d06ea406ea106ebf06eb306ed0,
    0x06eca06e9706eae06ea30714707154071520716307160071410715d0716207172071780716a07161,
    0x0714207158071430714b071700715f0715007153071440714d0715a0724f0728d0728c0729107290,
    0x0728e0733c073420733b0733a073400734a07349074440744a0744b074520745107457074400744f,
    0x074500744e07442074460744d07454074e1074ff074fe074fd0751d075790757706983075ef0760f,
    0x07603075f7075fe075fc075f9075f807610075fb075f6075ed075f5075fd07699076b5076dd07755,
    0x0775f0776007752077560775a077690776707754077590776d077e0078870789a078940788f07884,
    0x078950788507886078a107883078790789907880078960787b0797c079820797d0797907a1107a18,
    0x07a1907a1207a1707a1507a2207a1307a1b07a1007aa307aa207a9e07aeb07b6607b6407b6d07b74,
    0x07b6907b7207b6507b7307b7107b7007b6107b7807b7607b6307cb207cb407caf07d8807d8607d80,
    0x07d8d07d7f07d8507d7a07d8e07d7b07d8307d7c07d8c07d9407d8407d7d07d9207f6d07f6b07f67,
    0x07f6807f6c07fa607fa507fa707fdb07fdc080210816408160081770815c081690815b0816208172,
    0x067210815e08176081670816f08144081610821d0824908244082400824208245084f10843f08456,
    0x08476084790848f0848d0846508451084400848608467084300844d0847d0845a084590847408473,
    0x0845d085070845e084370843a084340847a0844308478084320844508429083d90844b0842f08442,
    0x0842d0845f08470084390844e0844c084520846f084c50848e0843b084470843608433084680847e,
    0x084440842b08460084540846e084500870b08704086f70870c086fa086d6086f50874d086f80870e,
    0x0870908701086f60870d08705088d6088cb088cd088ce088de088db088da088cc088d0089850899b,
    0x089df089e5089e4089e1089e0089e2089dc089e608a7608a8608a7f08a6108a3f08a7708a8208a84,
    0x08a7508a8308a8108a7408a7a08c3c08c4b08c4a08c6508c6408c6608c8608c8408c8508ccc08d68,
    0x08d6908d9108d8c08d8e08d8f08d8d08d9308d9408d9008d9208df008de008dec08df108dee08dd0,
    0x08de908de308de208de708df208deb08df408f0608eff08f0108f0008f0508f0708f0808f0208f0b,
    0x090520903f09044090490903d091100910d0910f0911109116091140910b0910e0916e0916f09248,
    0x09252092300923a0926609233092650925e092830922e0924a092460926d0926c0924f0926009267,
    0x0926f09236092610927009231092540926309250092720924e092530924c09256092320959f0959c,
    0x0959e0959b09692096930969109697096ce096fa096fd096f8096f5097730977709778097720980f,
    0x0980d0980e098ac098f6098f9099af099b2099b0099b509aad09aab09b5b09cea09ced09ce709e80,
    0x09efd050e6050d4050d7050e8050f3050db050ea050dd050e4050d3050ec050f0050ef050e3050e0,
    0x051d80528005281052e9052eb05330053ac05627056150560c05612055fc0560f0561c0560105613,
    0x05602055fa0561d05604055ff055f9058890587c058900589805886058810587f058740588b0587a,
    0x05887058910588e0587605882058880587b058940588f058fe0596b05adc05aee05ae505ad505aea,
    0x05ada05aed05aeb05af305ae205ae005adb05aec05ade05add05ad905ae805adf05b7705be005be3,
    0x05c6305d8205d8005d7d05d8605d7a05d8105d7705d8a05d8905d8805d7e05d7c05d8d05d7905d7f,
    0x05e5805e5905e5305ed805ed105ed705ece05edc05ed505ed905ed205ed405f4405f4305f6f05fb6,
    0x0612c06128061410615e06171061730615206153061720616c0618006174061540617a0615b06165,
    0x0613b0616a061610615606229062270622b0642b0644d0645b0645d064740647606472064730647d,
    0x0647506466064a60644e064820645e0645c0644b0645306460064500647f0643f0646c0646b06459,
    0x064650647706573065a0066a1066a00669f067050670406722069b1069b6069c9069a0069ce06996,
    0x069b0069ac069bc06991069990698e069a70698d069a9069be069af069bf069c4069bd069a4069d4,
    0x069b9069ca0699a069cf069b306993069aa069a10699e069d90699706990069c2069b5069a5069c6,
    0x06b4a06b4d06b4b06b9e06b9f06ba006bc306bc406bfe06ece06ef506ef106f0306f2506ef806f37,
    0x06efb06f2e06f0906f4e06f1906f1a06f2706f1806f3b06f1206eed06f0a06f3606f7306ef906eee,
    0x06f2d06f4006f3006f3c06f3506eeb06f0706f0e06f4306f0506efd06ef606f3906f1c06efc06f3a,
    0x06f1f06f0d06f1e06f0806f210718707190071890718007185071820718f0717b071860718107197,
    0x0724407253072970729507293073430734d073510734c0746207473074710747507472074670746e,
    0x0750007502075030757d0759007616076080760c07615076110760a07614076b8077810777c07785,
    0x077820776e077800776f0777e07783078b2078aa078b4078ad078a80787e078ab0789e078a5078a0,
    0x078ac078a2078a4079980798a0798b079960799507994079930799707988079920799007a2b07a4a,
    0x07a3007a2f07a2807a2607aa807aab07aac07aee07b8807b9c07b8a07b9107b9007b9607b8d07b8c,
    0x07b9b07b8e07b8507b980528407b9907ba407b8207cbb07cbf07cbc07cba07da707db707dc207da3,
    0x07daa07dc107dc007dc507d9d07dce07dc407dc607dcb07dcc07daf07db907d9607dbc07d9f07da6,
    0x07dae07da907da107dc907f7307fe207fe307fe507fde080240805d0805c08189081860818308187,
    0x0818d0818c0818b0821508497084a4084a10849f084ba084ce084c2084ac084ae084ab084b9084b4,
    0x084c1084cd084aa0849a084b1084d00849d084a7084bb084a208494084c7084cc0849b084a9084af,
    0x084a8084d608498084b6084cf084a0084d7084d4084d2084db084b00849108661087330872308728,
    0x0876b087400872e0871e08721087190871b087430872c087410873e0874608720087320872a0872d,
    0x0873c087120873a087310873508742087260872708738087240871a0873008711088f7088e7088f1,
    0x088f2088fa088fe088ee088fc088f6088fb088f0088ec088eb0899d089a10899f0899e089e9089eb,
    0x089e808aab08a9908a8b08a9208a8f08a9608c3d08c6808c6908cd508ccf08cd708d9608e0908e02,
    0x08dff08e0d08dfd08e0a08e0308e0708e0608e0508dfe08e0008e0408f1008f1108f0e08f0d09123,
    0x0911c09120091220911f0911d0911a09124091210911b0917a091720917909173092a5092a409276,
    0x0929b0927a092a009294092aa0928d092a60929a092ab09279092970927f092a3092ee0928e09282,
    0x09295092a20927d09288092a10928a092860928c09299092a70927e09287092a90929d0928b0922d,
    0x0969e096a1096ff097580977d0977a0977e0978309780097820977b09784097810977f097ce097cd,
    0x09816098ad098ae0990209900099070999d0999c099c3099b9099bb099ba099c2099bd099c709ab1,
    0x09ae309ae709b3e09b3f09b6009b6109b5f09cf109cf209cf509ea7050ff0510305130050f805106,
    0x05107050f6050fe0510b0510c050fd0510a0528b0528c052f1052ef05648056420564c0563505641,
    0x0564a0564905646056580565a05640056330563d0562c0563e056380562a0563a0571a058ab0589d,
    0x058b1058a0058a3058af058ac058a5058a1058ff05aff05af405afd05af705af605b0305af805b02,
    0x05af905b0105b0705b0505b0f05c6705d9905d9705d9f05d9205da205d9305d9505da005d9c05da1,
    0x05d9a05d9e05e6905e5d05e6005e5c07df305edb05ede05ee105f4905fb20618b0618306179061b1,
    0x061b0061a2061890619b06193061af061ad0619f06192061aa061a10618d06166061b30622d0646e,
    0x0647006496064a006485064970649c0648f0648b0648a0648c064a30649f06468064b10649806576,
    0x0657a065790657b065b2065b3066b5066b0066a9066b2066b7066aa066af06a0006a0606a17069e5,
    0x069f806a15069f1069e406a20069ff069ec069e206a1b06a1d069fe06a27069f2069ee06a14069f7,
    0x069e706a4006a08069e6069fb06a0d069fc069eb06a0906a0406a1806a2506a0f069f606a2606a07,
    0x069f406a1606b5106ba506ba306ba206ba606c0106c0006bff06c0206f4106f2606f7e06f8706fc6,
    0x06f9206f8d06f8906f8c06f6206f4f06f8506f5a06f9606f7606f6c06f8206f5506f7206f5206f50,
    0x06f5706f9406f9306f5d06f0006f6106f6b06f7d06f6706f9006f5306f8b06f6906f7f06f9506f63,
    0x06f7706f6a06f7b071b2071af0719b071b0071a00719a071a9071b50719d071a50719e071a4071a1,
    0x071aa0719c071a7071b3072980729a07358073520735e0735f073600735d0735b073610735a07359,
    0x0736207487074890748a07486074810747d07485074880747c0747907508075070757e076250761e,
    0x076190761d0761c076230761a076280761b0769c0769d0769e0769b0778d0778f0778907788078cd,
    0x078bb078cf078cc078d1078ce078d4078c8078c3078c4078c90799a079a1079a00799c079a20799b,
    0x06b7607a3907ab207ab407ab307bb707bcb07bbe07bac07bce07baf07bb907bca07bb507cc507cc8,
    0x07ccc07ccb07df707ddb07dea07de707dd707de107e0307dfa07de607df607df107df007dee07ddf,
    0x07f7607fac07fb007fad07fed07feb07fea07fec07fe607fe80806408067081a30819f0819e08195,
    0x081a20819908197082160824f0825308252082500824e08251085240853b0850f08500085290850e,
    0x085090850d0851f0850a085270851c084fb0852b084fa085080850c084f40852a084f208515084f7,
    0x084eb084f3084fc08512084ea084e908516084fe085280851d0852e08502084fd0851e084f608531,
    0x08526084e7084e8084f0084ef084f90851808520085300850b085190852f08662087560876308764,
    0x08777087e10877308758087540875b08752087610875a087510875e0876d0876a087500874e0875f,
    0x0875d0876f0876c0877a0876e0875c087650874f0877b087750876208767087690885a089050890c,
    0x089140890b0891708918089190890608916089110890e08909089a2089a4089a3089ed089f0089ec,
    0x08acf08ac608ab808ad308ad108ad408ad508abb08ad708abe08ac008ac508ad808ac308aba08abd,
    0x08ad908c3e08c4d08c8f08ce508cdf08cd908ce808cda08cdd08ce708da008d9c08da108d9b08e20,
    0x08e2308e2508e2408e2e08e1508e1b08e1608e1108e1908e2608e2708e1408e1208e1808e1308e1c,
    0x08e1708e1a08f2c08f2408f1808f1a08f2008f2308f1608f1709073090700906f090670906b0912f,
    0x0912b091290912a09132091260912e09185091860918a09181091820918409180092d0092c3092c4,
    0x092c0092d9092b6092cf092f1092df092d8092e9092d7092dd092cc092ef092c2092e8092ca092c8,
    0x092ce092e6092cd092d5092c9092e0092de092e7092d1092d3092b5092e1092c6092b40957c095ac,
    0x095ab095ae095b0096a4096a2096d30970509708097020975a0978a0978e09788097d0097cf0981e,
    0x0981d098260982909828098200981b09827098b209908098fa0991109914099160991709915099dc,
    0x099cd099cf099d3099d4099ce099c9099d6099d8099cb099d7099cc09ab309aec09aeb09af309af2,
    0x09af109b4609b4309b6709b7409b7109b6609b7609b7509b7009b6809b6409b6c09cfc09cfa09cfd,
    0x09cff09cf709d0709d0009cf909cfb09d0809d0509d0409e8309ed309f0f09f100511c0511305117,
    0x0511a05111051de05334053e105670056600566e0567305666056630566d056720565e056770571c,
    0x0571b058c8058bd058c9058bf058ba058c2058bc058c605b1705b1905b1b05b2105b1405b1305b10,
    0x05b1605b2805b1a05b2005b1e05bef05dac05db105da905da705db505db005dae05daa05da805db2,
    0x05dad05daf05db405e6705e6805e6605e6f05ee905ee705ee605ee805ee505f4b05fbc0619d061a8,
    0x06196061c5061b4061c6061c1061cc061ba061bf061b80618c064d7064d6064d0064cf064c9064bd,
    0x06489064c3064db064f3064d9065330657f0657c065a2066c8066be066c0066ca066cb066cf066bd,
    0x066bb066ba066cc0672306a3406a6606a4906a6706a3206a6806a3e06a5d06a6d06a7606a5b06a51,
    0x06a2806a5a06a3b06a3f06a4106a6a06a6406a5006a4f06a5406a6f06a6906a6006a3c06a5e06a56,
    0x06a5506a4d06a4e06a4606b5506b5406b5606ba706baa06bab06bc806bc706c0406c0306c0606fad,
    0x06fcb06fa306fc706fbc06fce06fc806f5e06fc406fbd06f9e06fca06fa80700406fa506fae06fba,
    0x06fac06faa06fcf06fbf06fb806fa206fc906fab06fcd06faf06fb206fb0071c5071c2071bf071b8,
    0x071d6071c0071c1071cb071d4071ca071c7071cf071bd071d8071bc071c6071da071db0729d0729e,
    0x0736907366073670736c073650736b0736a0747f0749a074a0074940749207495074a10750b07580,
    0x0762f0762d076310763d076330763c076350763207630076bb076e60779a0779d077a10779c0779b,
    0x077a2077a3077950779907797078dd078e9078e5078ea078de078e3078db078e1078e2078ed078df,
    0x078e0079a407a4407a4807a4707ab607ab807ab507ab107ab707bde07be307be707bdd07bd507be5,
    0x07bda07be807bf907bd407bea07be207bdc07beb07bd807bdf07cd207cd407cd707cd007cd107e12,
    0x07e2107e1707e0c07e1f07e2007e1307e0e07e1c07e1507e1a07e2207e0b07e0f07e1607e0d07e14,
    0x07e2507e2407f4307f7b07f7c07f7a07fb107fef0802a080290806c081b1081a6081ae081b9081b5,
    0x081ab081b0081ac081b4081b2081b7081a7081f208255082560825708556085450856b0854d08553,
    0x08561085580854008546085640854108562085440855108547085630853e0855b085710854e0856e,
    0x085750855508567085600858c085660855d08554085650856c0866308665086640879b0878f08797,
    0x0879308792087880878108796087980877908787087a30878508790087910879d08784087940879c,
    0x0879a087890891e08926089300892d0892e08927089310892208929089230892f0892c0891f089f1,
    0x08ae008ae208af208af408af508add08b1408ae408adf08af008ac808ade08ae108ae808aff08aef,
    0x08afb08c9108c9208c9008cf508cee08cf108cf008cf308d6c08d6e08da508da708e3308e3e08e38,
    0x08e4008e4508e3608e3c08e3d08e4108e3008e3f08ebd08f3608f2e08f3508f3208f3908f3708f34,
    0x09076090790907b09086090fa0913309135091360919309190091910918d0918f093270931e09308,
    0x0931f093060930f0937a093380933c0931b093230931209301093460932d0930e0930d092cb0931d,
    0x092fa0932509313092f9092f7093340930209324092ff0932909339093350932a093140930c0930b,
    0x092fe0930909300092fb09316095bc095cd095be095b9095ba095b6095bf095b5095bd096a9096d4,
    0x0970b0971209710097990979709794097f0097f8098350982f09832099240991f09927099290999e,
    0x099ee099ec099e5099e4099f0099e3099ea099e9099e709ab909abf09ab409abb09af609afa09af9,
    0x09af709b3309b8009b8509b8709b7c09b7e09b7b09b8209b9309b9209b9009b7a09b9509b7d09b88,
    0x09d2509d1709d2009d1e09d1409d2909d1d09d1809d2209d1009d1909d1f09e8809e8609e8709eae,
    0x09ead09ed509ed609efa09f1209f3d051260512505122051240512005129052f4056930568c0568d,
    0x0568605684056830567e056820567f05681058d6058d4058cf058d205b2d05b2505b3205b2305b2c,
    0x05b2705b2605b2f05b2e05b7b05bf105bf205db705e6c05e6a05fbe05fbb061c3061b5061bc061e7,
    0x061e0061e5061e4061e8061de064ef064e9064e3064eb064e4064e80658106580065b6065da066d2,
    0x06a8d06a9606a8106aa506a8906a9f06a9b06aa106a9e06a8706a9306a8e06a9506a8306aa806aa4,
    0x06a9106a7f06aa606a9a06a8506a8c06a9206b5b06bad06c0906fcc06fa906ff406fd406fe306fdc,
    0x06fed06fe706fe606fde06ff206fdd06fe206fe8071e1071f1071e8071f2071e4071f0071e207373,
    0x0736e0736f07497074b2074ab07490074aa074ad074b1074a5074af0751007511075120750f07584,
    0x07643076480764907647076a4076e9077b5077ab077b2077b7077b6077b4077b1077a8077f0078f3,
    0x078fd07902078fb078fc078f207905078f9078fe07904079ab079a807a5c07a5b07a5607a5807a54,
    0x07a5a07abe07ac007ac107c0507c0f07bf207c0007bff07bfb07c0e07bf407c0b07bf307c0207c09,
    0x07c0307c0107bf807bfd07c0607bf007bf107c1007c0a07ce807e2d07e3c07e4207e330984807e38,
    0x07e2a07e4907e4007e4707e2907e4c07e3007e3b07e3607e4407e3a07f4507f7f07f7e07f7d07ff4,
    0x07ff20802c081bb081c4081cc081ca081c5081c7081bc081e90825b0825a0825c08583085800858f,
    0x085a708595085a00858b085a30857b085a40859a0859e085770857c08589085a10857a0857808557,
    0x0858e08596085860858d085990859d08581085a2085820858808585085790857608598085900859f,
    0x08668087be087aa087ad087c5087b0087ac087b9087b5087bc087ae087c9087c3087c2087cc087b7,
    0x087af087c4087ca087b4087b6087bf087b8087bd087de087b208935089330893c0893e0894108952,
    0x0893708942089ad089af089ae089f2089f308b1e08b1808b1608b1108b0508b0b08b2208b0f08b12,
    0x08b1508b0708b0d08b0808b0608b1c08b1308b1a08c4f08c7008c7208c7108c6f08c9508c9408cf9,
    0x08d6f08e4e08e4d08e5308e5008e4c08e4708f4308f40090850907e091380919a091a20919b09199,
    0x0919f091a10919d091a0093a109383093af0936409356093470937c093580935c093760934909350,
    0x09351093600936d0938f0934c0936a093790935709355093520934f09371093770937b093610935e,
    0x0936309367093800934e09359095c7095c0095c9095c3095c5095b7096ae096b0096ac097200971f,
    0x097180971d097190979a097a10979c0979e0979d097d5097d4097f109841098440984a0984909845,
    0x09843099250992b0992c0992a09933099320992f0992d099310993009998099a3099a109a02099fa,
    0x099f4099f7099f9099f8099f6099fb099fd099fe099fc09a0309abe09afe09afd09b0109afc09b48,
    0x09b9a09ba809b9e09b9b09ba609ba109ba509ba409b8609ba209ba009baf09d3309d4109d6709d36,
    0x09d2e09d2f09d3109d3809d3009d4509d4209d4309d3e09d3709d4009d3d07ff509d2d09e8a09e89,
    0x09e8d09eb009ec809eda09efb09eff09f2409f2309f2209f5409fa0051310512d0512e056980569c,
    0x056970569a0569d056990597005b3c05c6905c6a05dc005e6d05e6e061d8061df061ed061ee061f1,
    0x061ea061f0061eb061d6061e9064ff06504064fd064f80650106503064fc06594065db066da066db,
    0x066d806ac506ab906abd06ae106ac606aba06ab606ab706ac706ab406aad06b5e06bc906c0b07007,
    0x0700c0700d0700107005070140700e06fff0700006ffb0702606ffc06ff70700a07201071ff071f9,
    0x07203071fd07376074b8074c0074b5074c1074be074b6074bb074c207514075130765c0766407659,
    0x0765007653076570765a076a6076bd076ec077c2077ba078ff0790c0791307914079090791007912,
    0x07911079ad079ac07a5f07c1c07c2907c1907c2007c1f07c2d07c1d07c2607c2807c2207c2507c30,
    0x07e5c07e5007e5607e6307e5807e6207e5f07e5107e6007e5707e5307fb507fb307ff707ff808075,
    0x081d1081d2081d00825f0825e085b4085c6085c0085c3085c2085b3085b5085bd085c7085c4085bf,
    0x085cb085ce085c8085c5085b1085b6085d208624085b8085b7085be08669087e7087e6087e2087db,
    0x087eb087ea087e5087df087f3087e4087d4087dc087d3087ed087d8087e3087a4087d7087d908801,
    0x087f4087e8087dd089530894b0894f0894c0894608950089510894908b2a08b2708b2308b3308b30,
    0x08b3508b4708b2f08b3c08b3e08b3108b2508b3708b2608b3608b2e08b2408b3b08b3d08b3a08c42,
    0x08c7508c9908c9808c9708cfe08d0408d0208d0008e5c08e6208e6008e5708e5608e5e08e6508e67,
    0x08e5b08e5a08e6108e5d08e6908e5408f4608f4708f4808f4b091280913a0913b0913e091a8091a5,
    0x091a7091af091aa093b50938c09392093b70939b0939d09389093a70938e093aa0939e093a609395,
    0x09388093990939f0938d093b109391093b2093a4093a8093b4093a3093a5095d2095d3095d1096b3,
    0x096d7096da05dc2096df096d8096dd097230972209725097ac097ae097a8097ab097a4097aa097a2,
    0x097a5097d7097d9097d6097d8097fa098500985109852098b8099410993c0993a09a0f09a0b09a09,
    0x09a0d09a0409a1109a0a09a0509a0709a0609ac009adc09b0809b0409b0509b2909b3509b4a09b4c,
    0x09b4b09bc709bc609bc309bbf09bc109bb509bb809bd309bb609bc409bb909bbd09d5c09d5309d4f,
    0x09d4a09d5b09d4b09d5909d5609d4c09d5709d5209d5409d5f09d5809d5a09e8e09e8c09edf09f01,
    0x09f0009f1609f2509f2b09f2a09f2909f2809f4c09f55051340513505296052f7053b4056ab056ad,
    0x056a6056a7056aa056ac058da058dd058db0591205b3d05b3e05b3f05dc305e7005fbf061fb06507,
    0x065100650d065090650c0650e06584065de065dd066de06ae706ae006acc06ad106ad906acb06adf,
    0x06adc06ad006aeb06acf06acd06ade06b6006bb006c0c070190702707020070160702b0702107022,
    0x070230702907017070240701c0702a0720c0720a072070720207205072a5072a6072a4072a3072a1,
    0x074cb074c5074b7074c30751607660077c9077ca077c4077f10791d0791b079210791c079170791e,
    0x079b007a6707a6807c3307c3c07c3907c2c07c3b07cec07cea07e7607e7507e7807e7007e7707e6f,
    0x07e7a07e7207e7407e6807f4b07f4a07f8307f8607fb707ffd07ffe08078081d7081d50826408261,
    0x08263085eb085f1085ed085d9085e1085e8085da085d7085ec085f2085f8085d8085df085e3085dc,
    0x085d1085f0085e6085ef085de085e208800087fa08803087f6087f7088090880c0880b08806087fc,
    0x08808087ff0880a08802089620895a0895b08957089610895c089580895d0895908988089b7089b6,
    0x089f608b5008b4808b4a08b4008b5308b5608b5408b4b08b5508b5108b4208b5208b5708c4308c77,
    0x08c7608c9a08d0608d0708d0908dac08daa08dad08dab08e6d08e7808e7308e6a08e6f08e7b08ec2,
    0x08f5208f5108f4f08f5008f5308fb4091400913f091b0091ad093de093c7093cf093c2093da093d0,
    0x093f9093ec093cc093d9093a9093e6093ca093d4093ee093e3093d5093c4093ce093c0093d2093e7,
    0x0957d095da095db096e1097290972b0972c0972809726097b3097b7097b6097dd097de097df0985c,
    0x098590985d09857098bf098bd098bb098be099480994709943099a6099a709a1a09a1509a2509a1d,
    0x09a2409a1b09a2209a2009a2709a2309a1e09a1c09a1409ac209b0b09b0a09b0e09b0c09b3709bea,
    0x09beb09be009bde09be409be609be209bf009bd409bd709bec09bdc09bd909be509bd509be109bda,
    0x09d7709d8109d8a09d8409d8809d7109d8009d7809d8609d8b09d8c09d7d09d6b09d7409d7509d70,
    0x09d6909d8509d7309d7b09d8209d6f09d7909d7f09d8709d6809e9409e9109ec009efc09f2d09f40,
    0x09f4109f4d09f5609f5709f5805337056b2056b5056b3058e305b4505dc605dc705eee05eef05fc0,
    0x05fc1061f906517065160651506513065df066e8066e3066e406af306af006aea06ae806af906af1,
    0x06aee06aef0703c070350702f07037070340703107042070380703f0703a07039070400703b07033,
    0x070410721307214072a80737d0737c074ba076ab076aa076be076ed077cc077ce077cf077cd077f2,
    0x079250792307927079280792407929079b207a6e07a6c07a6d07af707c4907c4807c4a07c4707c45,
    0x07cee07e7b07e7e07e8107e8007fba07fff08079081db081d90820b082680826908622085ff08601,
    0x085fe0861b08600085f60860408609086050860c085fd08819088100881108817088130881608963,
    0x08966089b9089f708b6008b6a08b5d08b6808b6308b6508b6708b6d08dae08e8608e8808e8408f59,
    0x08f5608f5708f5508f5808f5a0908d0914309141091b7091b5091b2091b30940b09413093fb09420,
    0x0940f09414093fe094150941009428094190940d093f509400093f7094070940e0941609412093fa,
    0x09409093f80940a093ff093fc0940c093f60941109406095de095e0095df0972e0972f097b9097bb,
    0x097fd097fe0986009862098630985f098c1098c2099500994e099590994c0994b0995309a3209a34,
    0x09a3109a2c09a2a09a3609a2909a2e09a3809a2d09ac709aca09ac609b1009b1209b1109c0b09c08,
    0x09bf709c0509c1209bf809c4009c0709c0e09c0609c1709c1409c0909d9f09d9909da409d9d09d92,
    0x09d9809d9009d9b09da009d9409d9c09daa09d9709da109d9a09da209da809d9e09da309dbf09da9,
    0x09d9609da609da709e9909e9b09e9a09ee509ee409ee709ee609f3009f2e09f5b09f6009f5e09f5d,
    0x09f5909f910513a051390529805297056c3056bd056be05b4805b4705dcb05dcf05ef1061fd0651b,
    0x06b0206afc06b0306af806b0007043070440704a070480704907045070460721d0721a072190737e,
    0x075170766a077d00792d079310792f07c5407c5307cf207e8a07e8707e8807e8b07e8607e8d07f4d,
    0x07fbb08030081dd086180862a086260861f086230861c08619086270862e0862108620086290861e,
    0x08625088290881d0881b08820088240881c0882b0884a0896d089690896e0896b089fa08b7908b78,
    0x08b4508b7a08b7b08d1008d1408daf08e8e08e8c08f5e08f5b08f5d091460914409145091b90943f,
    0x0943b09436094290943d0943c09430094390942a094370942c0944009431095e5095e4095e309735,
    0x0973a097bf097e109864098c9098c6098c0099580995609a3909a3d09a4609a4409a4209a4109a3a,
    0x09a3f09acd09b1509b1709b1809b1609b3a09b5209c2b09c1d09c1c09c2c09c2309c2809c2909c24,
    0x09c2109db709db609dbc09dc109dc709dca09dcf09dbe09dc509dc309dbb09db509dce09db909dba,
    0x09dac09dc809db109dad09dcc09db309dcd09db209e7a09e9c09eeb09eee09eed09f1b09f1809f1a,
    0x09f3109f4e09f6509f6409f9204eb9056c6056c5056cb0597105b4b05b4c05dd505dd105ef206521,
    0x06520065260652206b0b06b0806b0906c0d070550705607057070520721e0721f072a90737f074d8,
    0x074d5074d9074d70766d076ad07935079b407a7007a7107c5707c5c07c5907c5b07c5a07cf407cf1,
    0x07e9107f4f07f87081de0826b0863408635086330862c08632086360882c08828088260882a08825,
    0x08971089bf089be089fb08b7e08b8408b8208b8608b8508b7f08d1508e9508e9408e9a08e9208e90,
    0x08e9608e9708f6008f62091470944c094500944a0944b0944f09447094450944809449094460973f,
    0x097e30986a09869098cb099540995b09a4e09a5309a5409a4c09a4f09a4809a4a09a4909a5209a50,
    0x09ad009b1909b2b09b3b09b5609b5509c4609c4809c3f09c4409c3909c3309c4109c3c09c3709c34,
    0x09c3209c3d09c3609ddb09dd209dde09dda09dcb09dd009ddc09dd109ddf09de909dd909dd809dd6,
    0x09df509dd509ddd09eb609ef009f3509f3309f3209f4209f6b09f9509fa20513d05299058e8058e7,
    0x0597205b4d05dd80882f05f4f062010620306204065290652506596066eb06b1106b1206b0f06bca,
    0x0705b0705a0722207382073810738307670077d407c6707c6607e950826c0863a08640086390863c,
    0x086310863b0863e08830088320882e08833089760897408973089fe08b8c08b8e08b8b08b8808c45,
    0x08d1908e9808f6408f63091bc09462094550945d094570945e097c4097c50980009a5609a5909b1e,
    0x09b1f09b2009c5209c5809c5009c4a09c4d09c4b09c5509c5909c4c09c4e09dfb09df709def09de3,
    0x09deb09df809de409df609de109dee09de609df209df009de209dec09df409df309de809ded09ec2,
    0x09ed009ef209ef309f0609f1c09f3809f3709f3609f4309f4f09f7109f7009f6e09f6f056d3056cd,
    0x05b4e05c6d0652d066ed066ee06b130705f070610705d0706007223074db074e5077d507938079b7,
    0x079b607c6a07e9707f890826d086430883808837088350884b08b9408b9508e9e08e9f08ea008e9d,
    0x091be091bd091c20946b0946809469096e5097460974309747097c7097e509a5e09ad509b5909c63,
    0x09c6709c6609c6209c5e09c6009e0209dfe09e0709e0309e0609e0509e0009e0109e0909dff09dfd,
    0x09e0409ea009f1e09f4609f7409f7509f76056d40652e065b806b1806b1906b1706b1a0706207226,
    0x072aa077d8077d90793907c6907c6b07cf607e9a07e9807e9b07e99081e0081e1086460864708648,
    0x089790897a0897c0897b089ff08b9808b9908ea508ea408ea30946e0946d0946f094710947309749,
    0x098720995f09c6809c6e09c6d09e0b09e0d09e1009e0f09e1209e1109ea109ef509f0909f4709f78,
    0x09f7b09f7a09f790571e0706607c6f0883c08db208ea6091c30947409478094760947509a6009c74,
    0x09c7309c7109c7509e1409e1309ef609f0a09fa4070680706507cf70866a0883e0883d0883f08b9e,
    0x08c9c08ea908ec90974b0987309874098cc09961099ab09a6409a6609a6709b2409e1509e1709f48,
    0x0620706b1e072270864c08ea809482094800948109a6909a6809b2e09e19072290864b08b9f09483,
    0x09c7909eb70767509a6b09c7a09e1d070690706a09ea409f7e09f4909f9807881092b9088cf058bb,
    0x0605207ca705afa025540256602557025600256c025630255a025690255d0255202564025550255e,
    0x0256a0256102558025670255b0255302565025560255f0256b0256202559025680255c0255102550,
    0x0256d0256e025700256f0ffed20547092db205df23fc50854c042b5073ef051b50364924942289e4,
    0x09344219db082ee23cc80783c06744062df24933289aa202a026bb32130504fab224ed0500826d29,
    0x27a842360024ab122513050292037e05fa4203802034706edb2041f0507d051010347a0510e0986c,
    0x0374308416249a42048705160233b40516a20bff220fc202e5225302058e232332198305b820877d,
    0x205b323c99051b2051b809d34051c9051cf051d103cdc051d324aa6051b3051e205342051ed083cd,
    0x0693e2372d05f7b0520b052260523c052b50525705294052b9052c507c1508542052e00860d26b13,
    0x0530528ade0554906ed923f802095423fec053330534420be206ccb217260681b073d50604a03eaa,
    0x038cc216e8071dd044a20536d05374286ab0537e0537f2159621613077e60539328a9b053a0053ab,
    0x053ae073a72577203f590739c053c1053c506c4904e49057fe053d903aab20b8f053e023feb22da3,
    0x053f620c7705413070790552b0665706d5b0546d26b5320d740555d0548f054a4047a62170d20edd,
    0x03db420d4d289bc226980554704ced0542f0741705586055a905605218d72403a0455224435066b3,
    0x210b405637066cd2328a066a4066ad0564d0564f078f1056f109787053fe05700056ef056ed28b66,
    0x036232124f05746241a506c6e0708b05742036b126c7e057e6214160580321454243630582624bf5,
    0x0585c058aa03561058e0058dc2123c058fb05bff057432a15024278093d3035a10591f068a6036c3,
    0x06e592163e05a24055532169208505059c920d4e26c8126d2a217dc059d9217fb217b226da606d71,
    0x21828216d5059f926e4505aab05a63036e6249a905a770370805a960746505ad326fa12255403d85,
    0x2191103732216b805e83052d005b760658805b7c27a0e040040485d2020405bd50616021a34259cc,
    0x205a505bf305b9d04d1005c0521b4405c13073ce05c1421ca526b2805c49048dd05c8505ce905cef,
    0x05d8b21df921e3705d1005d1805d4621ea405cba05dd7082fc0382d2490122049221730828703836,
    0x03bc205e2e06a8a05e7505e7a244bc20cd3053a604eb705ed0053a82177105e0905ef42848205ef9,
    0x05efb038a005efc0683e0941b05f0d201c12f89403ade048ae2133a05f3a26888223d005f5822471,
    0x05f63097bd26e6e05f720934028a3605fa705db603d5f2525021f6a270f822668091d62029e28a29,
    0x0603106685218770396303dc70363905790227b40797103e400609e060a4060b3249822498f27a53,
    0x074a4050e105aa00616408424061422f8a626ed206181051f4206560618705baa23fb72285f061d3,
    0x28b9d2995d061d00393222980228c1060230615c0651e0638b20118062c521770062d522e0d0636c,
    0x249df03a1706438063f82138e217fc0649006f8a22e36098142408c2571d064e1064e50947b03a66,
    0x0643a03a570654d06f1624a2824a23065850656d0655f2307e065b52494004b37065d1040d821829,
    0x065e0065e305fdf2340006618231f7231f806644231a4231a50664b20e7506667251e60667306674,
    0x21e3d23231285f4231c825313077c5228f7099a4067022439c24a2103b2b069fa237c20675e06767,
    0x06762241cd290ed067d7044e90682206e500923c06801233e626da00685d2346f069e106a0b28adf,
    0x06973068c3235cd069010690003d3203a012363c03b80067ac0696128a4a042fc069360699803ba1,
    0x203c90836305090069f9236592212a06a452370306a9d03bf3067b106ac82919c03c0d06b1d20923,
    0x060de06b3506b74227cd06eb523adb203b521958037400542123b5a06be123efc06bdc06c372248b,
    0x248f126b5106c5a0822606c7923dbc044c523dbd241a42490c2490023cc9036e503ceb20d3209b83,
    0x231f92249107f8f0683726d2526da126deb06d9606d5c06e7c06f042497f2408526e720853326f74,
    0x051c706c9c06e1d0842e28b2106e2f23e2f0745323f82079cc06e4f05a912304b06ff80370d06f9d,
    0x23e3006efa214972403d04555093f006f4406f5c03d4e06f742917003d3b06f9f2414406fd324091,
    0x241552403923ff023fb42413f051df241562415724140261dd0704b0707e070a707081070cc070d5,
    0x070d6070df0410403de8071b407196242770712b0714505a880714a0716e05c9c243650714f09362,
    0x242c10712c2445a24a2724a22071ba28be8070bd0720e09442072150591109443072240934125605,
    0x0722e0724024974068bd072550725703e55230440680d06f3d072820732a0732b248232882b048ed,
    0x28804073280732e073cf073aa20c3a26a2e073c907449241e2216e724a2406623036c5249b72498d,
    0x249fb073f7074150690324a2607439205c303ed70745c228ad0746028eb207447073e407476083b9,
    0x0746c0373007474093f106a2c074820495324a8c2415f24a7928b8f05b4628c032189e074c821988,
    0x0750e074e90751e28ed921a4b05bd728eac093850754d0754a075670756e24f8203f0424d130758e,
    0x0745d0759e075b4076020762c076510764f0766f07676263f507690081ef037f8269112690e076a1,
    0x076a5076b7076cc26f9f084622509d2517d21e1c0771e0772607740064af2522007758232ac077af,
    0x2896428968216c1077f4078092137624a12068ca078af078c7078d3096a50792e255e0078d707934,
    0x078b12760c08fb80888428b2b260832261c07986089000690207980258570799d27b390793c079a9,
    0x06e2a2712603ea8079c62910d079d400000000000000000000000000000000000000000000000000]

end ChunkTree.Text
